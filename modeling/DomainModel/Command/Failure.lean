import DomainModel.Disk.Fault
import DomainModel.Import

/-! Why a command fails, and how that is said. -/

namespace DomainModel.Command

/-- Why a command fails. -/
inductive Failure where
  | settingsUnread (path : String) (fault : DiskFault)
  | settingsInvalid (path : String)
  /-- A file or a directory of the run, or the file asked for, cannot be written. -/
  | unwritten (fault : DiskFault)
  /-- What is to stand in a file of the run cannot be added to it. -/
  | unencoded (fault : DiskFault)
  | filterInvalid (filter : String)
  /-- A path to write to has no name at its end. -/
  | outputInvalid (path : String)
  | fileUnread (path : String) (fault : DiskFault)
  /-- A file is no JSON, or does not hold a project. -/
  | projectInvalid (path : String)
  | importRejected (failure : ImportFailure)
  /-- A document that fits the schema of projects holds none. -/
  | projectUnfit
  | issuesFound (count : Nat)
  deriving DecidableEq, Repr

/-- What is said of settings that cannot be read. -/
def settingsComplaint : String :=
  "the text is no TOML document, or a setting has a value of another type"

/-- The wording of a failure. -/
def Failure.message : Failure → String
  | .settingsUnread path fault => "failed to read " ++ path ++ ": " ++ fault.message
  | .settingsInvalid path => "invalid settings in " ++ path ++ ": " ++ settingsComplaint
  | .unwritten fault => "registry error: failed to write run artifact: " ++ fault.message
  | .unencoded fault => "registry error: failed to encode run artifact: " ++ fault.message
  | .filterInvalid filter => "registry error: invalid log filter '" ++ filter ++ "'"
  | .outputInvalid path => "registry error: invalid output path: " ++ path
  | .fileUnread path fault => "failed to read " ++ path ++ ": " ++ fault.message
  | .projectInvalid path => "invalid project file " ++ path ++ ": invalid project json: the text holds no project"
  | .importRejected failure => "import rejected: " ++ failure.message
  | .projectUnfit => "json error: the document holds no project"
  | .issuesFound count => "project has " ++ toString count ++ " validation error(s)"

end DomainModel.Command
