import DomainModel.Disk.Path
import DomainModel.Json.Printer
import DomainModel.Settings
import DomainModel.Time.Instant

/-! Runs: each import and each validation has a directory of its own, named for its instant and its
id, so that the directories of runs sort by time. It holds what the run was asked to do, its log and
what came of it. -/

namespace DomainModel

/-- The version of the model that runs record. -/
def modelVersion : String := "0.1"

/-- The state of the repository that a run is started in, as far as it is known. -/
structure Revision where
  commit : Option String := none
  changed : Option Bool := none
  deriving DecidableEq, Repr

/-- A run: what was asked for, when and under which settings. -/
structure Run where
  id : String
  startedAt : Time.Instant
  command : String
  input : Option String := none
  settings : Settings := {}
  revision : Revision := {}
  deriving DecidableEq, Repr

/-- The paths of a run. -/
structure RunPaths where
  root : String
  config : String
  log : String
  project : String
  report : String
  deriving DecidableEq, Repr

namespace Run

/-- The name of the directory of a run. -/
def directoryName (run : Run) : String := run.startedAt.toFileText ++ "__run_" ++ run.id

/-- The paths of a run below the directory for runs. -/
def pathsIn (run : Run) (directory : String) : RunPaths :=
  let root := Path.join directory run.directoryName
  { root
    config := Path.join root "config.json"
    log := Path.join root "logs.ndjson"
    project := Path.join root "project.json"
    report := Path.join root "report.json" }

/-- The text of an optional part, or nothing. -/
def textOrNull (text : Option String) : Json.Value := (text.map Json.Value.text).getD .null

/-- What a run records of itself. -/
def config (run : Run) : Json.Value :=
  .object
    [("run_id", .text run.id), ("started_at", .text run.startedAt.toText), ("command", .text run.command),
      ("input", textOrNull run.input), ("model_version", .text modelVersion), ("settings", run.settings.toJson),
      ("git", .object
        [("commit", textOrNull run.revision.commit),
          ("dirty", (run.revision.changed.map Json.Value.bool).getD .null)])]

end Run

end DomainModel
