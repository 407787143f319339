import DomainModel.Naming.Basic
import DomainModel.Report
import DomainModel.Text.Ascii

/-! The rule for the names of entities, data objects and mappers. The three have names of their own:
an entity and a data object may share one. -/

namespace DomainModel.Rule

/-- What a name belongs to. -/
inductive NameSpace where
  | entity
  | dataObject
  | mapper
  deriving DecidableEq, Repr

/-- What the messages call an element. -/
def NameSpace.label : NameSpace → String
  | .entity => "entity"
  | .dataObject => "data object"
  | .mapper => "mapper"

/-- Whether a name is taken. The first of the existing names that is exactly the `former` one is
the element's own and does not count. -/
def nameIsTaken (name : String) (former : Option String) : List String → Bool
  | [] => false
  | candidate :: rest =>
    if former == some candidate then rest.any fun other => Text.equalIgnoringCase (Text.trim other) name
    else Text.equalIgnoringCase (Text.trim candidate) name || nameIsTaken name former rest

/-- What is wrong with a name among the existing ones; `former` is the name that the element had
so far. -/
def nameIssues (name : String) (space : NameSpace) (existing : List String) (former : Option String) :
    List Issue :=
  let name := Text.trim name
  let label := space.label
  if name.isEmpty then
    [{ code := "name_required", path := "/name", message := label ++ " name is required" }]
  else match Naming.reservedWord? name with
    | some word =>
      [{ code := "reserved_keyword", path := "/name",
         message := "'" ++ word ++ "' is a reserved keyword and cannot be used as a " ++ label ++ " name",
         hint := some "choose a name that is not a Java or SQL keyword" }]
    | none =>
      if !Naming.isIdentifier name then
        [{ code := "invalid_identifier", path := "/name",
           message := "'" ++ name ++ "' is not a valid " ++ label ++ " name",
           hint := some "use letters, digits, '_' or '$', not starting with a digit" }]
      else if nameIsTaken name former existing then
        [{ code := "duplicate_name", path := "/name",
           message := "a " ++ label ++ " named '" ++ name ++ "' already exists" }]
      else []

end DomainModel.Rule
