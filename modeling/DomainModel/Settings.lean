import DomainModel.Json.Value
import DomainModel.Model.Import
import DomainModel.Toml.Reader

/-! Settings: how imports are applied, whether an entity may relate to itself, what is logged and
where runs are kept. They are written in TOML; a setting that is not there has its default, and keys
that are no settings are passed over. -/

namespace DomainModel

/-- The name of a mode. -/
def ImportMode.name : ImportMode → String
  | .replace => "replace"
  | .merge => "merge"

/-- The mode of a name. -/
def ImportMode.ofName? (name : String) : Option ImportMode :=
  if name == "replace" then some .replace else if name == "merge" then some .merge else none

/-- The settings of a program run. -/
structure Settings where
  importMode : ImportMode := .replace
  allowSelfReference : Bool := true
  /-- The filter of the log. -/
  logLevel : String := "info"
  /-- The directory that holds a directory for each run. -/
  runDirectory : String := "runs"
  deriving DecidableEq, Repr

namespace Settings

/-- Reads a text. -/
def text? : Toml.Value → Option String
  | .text value => some value
  | _ => none

/-- Reads a truth value. -/
def bool? : Toml.Value → Option Bool
  | .bool value => some value
  | _ => none

/-- Whether a value is an empty table or list. -/
def isVoid : Toml.Value → Bool
  | .list [] => true
  | .table _ [] => true
  | _ => false

/-- Reads a mode: its name, or a table with nothing but that name over an empty value. -/
def mode? : Toml.Value → Option ImportMode
  | .text name => ImportMode.ofName? name
  | .table _ [(name, value)] => if isVoid value then ImportMode.ofName? name else none
  | _ => none

/-- Reads a setting, if it is there. -/
def setting? {α : Type} (read? : Toml.Value → Option α) (default : α) (key : String) (members : Toml.Members) :
    Option α :=
  match members.lookup key with
  | some value => read? value
  | none => some default

/-- Reads the settings in a table. -/
def ofMembers? (members : Toml.Members) : Option Settings := do
  let base : Settings := {}
  return {
    importMode := ← setting? mode? base.importMode "import_mode" members
    allowSelfReference := ← setting? bool? base.allowSelfReference "allow_self_reference" members
    logLevel := ← setting? text? base.logLevel "log_level" members
    runDirectory := ← setting? text? base.runDirectory "run_dir" members }

/-- Reads settings; none when the text is not TOML or a setting has a value that is not for it. -/
def parse? (text : String) : Option Settings := do ofMembers? (← Toml.parse? text)

/-- The settings as an object. -/
def toJson (settings : Settings) : Json.Value :=
  .object
    [("import_mode", .text settings.importMode.name), ("allow_self_reference", .bool settings.allowSelfReference),
      ("log_level", .text settings.logLevel), ("run_dir", .text settings.runDirectory)]

end Settings

end DomainModel
