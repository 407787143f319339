import DomainModel.Command.Arguments
import DomainModel.Command.Failure
import DomainModel.Command.Host
import DomainModel.Log.Filter
import DomainModel.Model.Decode
import DomainModel.Model.Encode
import DomainModel.Rule.Project
import DomainModel.Run
import DomainModel.Schema.Check
import DomainModel.Schema.Project

/-! Carrying out commands. An import and a validation make the directory of their run first, and log
what they do there. The file that an import is asked to write is written last: beside its place
under another name, and then moved there, so that it is either replaced as a whole or left alone. -/

namespace DomainModel.Command

/-- What a command is told of its surroundings. -/
structure Environment where
  /-- The id of the run, if it comes to one. -/
  runId : String
  /-- A filter for the log that counts for more than that of the settings, if it is valid. -/
  logFilter : Option String := none
  /-- The number of the process, which sets names of files that are being written apart from others. -/
  processId : Nat
  revision : Revision := {}
  deriving DecidableEq, Repr

variable {m : Type → Type} [Monad m] [Host m]

/-- Part of a command, which may fail. -/
abbrev Attempt (m : Type → Type) (α : Type) : Type := ExceptT Failure m α

/-- Fails as told when an operation does. -/
def orFail {α : Type} (operation : m (Except DiskFault α)) (failure : DiskFault → Failure) : Attempt m α :=
  do
  match ← operation with
  | .ok result => return result
  | .error fault => throw (failure fault)

/-- Makes a directory unless it is there. -/
def ensureDirectory (path : Path) : m (Except DiskFault Unit) := do
  match ← Host.makeDirectory path with
  | .ok () => return .ok ()
  | .error fault => return if ← Host.isDirectory path then .ok () else .error fault

/-- Makes a directory and those on the way to it that are missing; `back` are the steps to it, the
last one first. -/
def ensureDirectories (absolute : Bool) (back : List Step) : m (Except DiskFault Unit) := do
  match back with
  | [] => return .ok ()
  | last :: before =>
    let path : Path := { absolute, steps := (last :: before).reverse }
    match ← ensureDirectory path with
    | .error .notFound =>
      match ← ensureDirectories absolute before with
      | .ok () => ensureDirectory path
      | .error fault => return .error fault
    | result => return result

/-- Makes the directory of a path, wherever it is missing. -/
def prepareDirectory (path : Path) : Attempt m Unit :=
  orFail (ensureDirectories path.absolute path.steps.reverse) .unwritten

/-- Reads a file that was named on the command line. -/
def readFile (path : String) : Attempt m String :=
  orFail (Host.readText (.ofText path)) (.fileUnread path)

/-- Writes a text to a file, in place of what it held. -/
def writeText (path : Path) (text : String) (failure : DiskFault → Failure) : Attempt m Unit := do
  orFail (Host.createFile path) .unwritten
  orFail (Host.appendText path text) failure

/-- Writes a file of the run. -/
def writeRunFile (path : String) (value : Json.Value) : Attempt m Unit :=
  writeText (.ofText path) value.pretty .unencoded

/-- The name of a file while it is being written. -/
def stagingName (processId : Nat) (name : String) : String := "." ++ name ++ "." ++ toString processId ++ ".tmp"

/-- Moves a file to its place; takes it away if that fails. -/
def moveInto (staging target : Path) : Attempt m Unit := do
  match ← Host.rename (m := m) staging target with
  | .ok () => return
  | .error fault =>
    Host.remove (m := m) staging
    throw (.unwritten fault)

/-- Writes a text under another name beside its place, and then moves it there. -/
def writeStaged (staging target : Path) (directory? : Option Path) (text : String) : Attempt m Unit := do
  writeText staging text .unwritten
  orFail (Host.syncFile staging) .unwritten
  moveInto staging target
  if let some directory := directory? then
    orFail (Host.syncDirectory directory) .unwritten

/-- Writes a value to a file, in place of what it held. -/
def writeWhole (processId : Nat) (path : String) (value : Json.Value) : Attempt m Unit := do
  let target := Path.ofText path
  let directory? := Path.directory? path
  if let some directory := directory? then
    prepareDirectory directory
  match target.name? with
  | none => throw (.outputInvalid path)
  | some name =>
    writeStaged (target.sibling (stagingName processId name)) target directory? (value.pretty ++ "\n")

/-- Where settings are looked for when no file is named. -/
def defaultSettingsPath : String := "modelforge.toml"

/-- Reads the settings in a file. -/
def readSettings (path : String) : Attempt m Settings := do
  let text ← orFail (Host.readText (.ofText path)) (.settingsUnread path)
  match Settings.parse? text with
  | some settings => return settings
  | none => throw (.settingsInvalid path)

/-- The settings in the file that is named, or else in the default file if that is there. -/
def storedSettings : Option String → Attempt m Settings
  | some path => readSettings path
  | none => do
    if ← Host.isThere (m := m) (.ofText defaultSettingsPath) then readSettings defaultSettingsPath
    else return {}

/-- The settings of an invocation. -/
def loadSettings (invocation : Invocation) : Attempt m Settings := do
  let settings ← storedSettings invocation.config
  return { settings with runDirectory := invocation.runDirectory.getD settings.runDirectory }

/-- A run that has begun: its paths, the filter of its log and its start. -/
structure OpenRun where
  paths : RunPaths
  filter : Log.Filter
  startedAt : Time.Instant

namespace OpenRun

/-- Logs an event, if the filter admits it. -/
def log (run : OpenRun) (event : Log.Event) : Attempt m Unit := do
  if run.filter.admits event then
    let line := event.line (← Host.now (m := m))
    let _ ← Host.appendText (m := m) (.ofText run.paths.log) line

/-- The time since the start, as an event tells it. -/
def duration (run : OpenRun) : Attempt m (String × Json.Value) := do
  let finish ← Host.now (m := m)
  return ("duration_ms", .text (toString (run.startedAt.millisecondsTo finish)))

end OpenRun

/-- The filter of the log: that of the surroundings if it is valid, else that of the settings. -/
def logFilter? (environment : Environment) (settings : Settings) : Option Log.Filter :=
  (environment.logFilter.bind Log.Filter.parse?).or (Log.Filter.parse? settings.logLevel)

/-- Begins a run: makes its directory with a record of what was asked for and an empty log. -/
def beginRun (environment : Environment) (settings : Settings) (command input : String) : Attempt m OpenRun :=
  do
  let run : Run :=
    { id := environment.runId, startedAt := ← Host.now (m := m), command, input := some input, settings,
      revision := environment.revision }
  let paths := run.pathsIn settings.runDirectory
  prepareDirectory (.ofText paths.root)
  writeRunFile paths.config run.config
  orFail (Host.appendText (.ofText paths.log) "") .unwritten
  match logFilter? environment settings with
  | none => throw (.filterInvalid settings.logLevel)
  | some filter =>
    let opened : OpenRun := { paths, filter, startedAt := run.startedAt }
    opened.log
      { level := .info, kind := "run_started"
        details := [("run_id", .text run.id), ("command", .text command), ("run_root", .text paths.root)] }
    return opened

/-- Reads the project in a file. -/
def readProject (path : String) : Attempt m Project := do
  match Project.read (← readFile path) with
  | .ok project => return project
  | .error _ => throw (.projectInvalid path)

/-- The project that an import is applied to: the one that is named, or an empty one. -/
def baseProject : Option String → Attempt m Project
  | some path => readProject path
  | none => return {}

/-- Reads an import and logs what happens meanwhile. -/
def readImport (run : OpenRun) (format : ImportFormat) (allowSelfReference : Bool) (text : String) :
    Attempt m ImportedSchema := do
  for note in format.notes allowSelfReference text do
    run.log (Log.ofImportNote note)
  match format.read allowSelfReference text with
  | .ok schema =>
    run.log
      { level := .info, kind := "import_finished"
        details :=
          [("format", .text format.name), ("entities", Log.count schema.entities.length),
            ("relations", Log.count schema.relations.length)] }
    return schema
  | .error failure =>
    run.log
      { level := .warn, kind := "import_rejected"
        details := [("format", .text format.name), ("error", .text failure.message)] }
    throw (.importRejected failure)

/-- Imports a file. -/
def importFile (environment : Environment) (settings : Settings) (format : ImportFormat) (input : String)
    (into : Option String) (mode : Option ImportMode) (out : Option String) : Attempt m Unit := do
  let run ← beginRun environment settings (Name.importFrom format).word input
  let schema ← readImport run format settings.allowSelfReference (← readFile input)
  let project := (← baseProject into).applyImport schema (mode.getD settings.importMode)
  writeRunFile run.paths.project project.toJson
  if let some path := out then
    writeWhole environment.processId path project.toJson
  run.log { level := .info, kind := "project_written", details := [("path", .text run.paths.project)] }
  Host.print (m := m) (importSummary schema.entities.length schema.relations.length ++ "\n")
  run.log
    { level := .info, kind := "run_finished", details := [("status", .text "success"), ← run.duration] }

/-- The report on a document: on its form, or if that is right, on the project in it. -/
def examine (settings : Settings) (document : Json.Value) : Except Failure Report :=
  let report := Schema.check Schema.project document
  if report.isOk then
    match Project.ofJson? document with
    | some project => .ok (Rule.validate project settings.allowSelfReference)
    | none => .error .projectUnfit
  else .ok report

/-- Prints a report: its errors and warnings, and that the project is valid if it is. -/
def printReport (report : Report) : Attempt m Unit := do
  for issue in report.errors do
    Host.printError (m := m) ("error " ++ issue.line ++ "\n")
  for issue in report.warnings do
    Host.printError (m := m) ("warning " ++ issue.line ++ "\n")
  if report.isOk then
    Host.print (m := m) ("project is valid (" ++ toString report.warnings.length ++ " warning(s))\n")

/-- Validates a project file. -/
def validate (environment : Environment) (settings : Settings) (path : String) : Attempt m Unit := do
  let run ← beginRun environment settings Name.validate.word path
  match Json.parse? (← readFile path) with
  | none => throw (.projectInvalid path)
  | some document =>
    let report ← examine settings document
    writeRunFile run.paths.report report.toJson
    printReport report
    run.log
      { level := .info, kind := "run_finished"
        details :=
          [("status", .text (if report.isOk then "success" else "invalid")),
            ("errors", Log.count report.errors.length), ("warnings", Log.count report.warnings.length),
            ← run.duration] }
    if !report.isOk then
      throw (.issuesFound report.errors.length)

/-- Shows the schema of projects, or writes it to a file. -/
def showSchema (environment : Environment) : Option String → Attempt m Unit
  | some path => writeWhole environment.processId path Schema.projectDocument
  | none => Host.print (m := m) (Schema.projectDocument.pretty ++ "\n")

/-- Carries out an invocation. -/
def execute (environment : Environment) (invocation : Invocation) : Attempt m Unit := do
  let settings ← loadSettings invocation
  match invocation.task with
  | .importFile format input into mode out => importFile environment settings format input into mode out
  | .validate project => validate environment settings project
  | .schema out => showSchema environment out

/-- The name and the version of the program. -/
def versionText : String := "modelforge 0.1.0\n"

/-- How the program is used. -/
def helpText : String :=
  "Import and validate domain models\n\n" ++
  "Usage: modelforge [OPTIONS] <COMMAND>\n\n" ++
  "Commands:\n" ++
  "  import-sql <FILE>   Import entities from a CREATE TABLE script\n" ++
  "  import-json <FILE>  Import entities and relations from a JSON schema export\n" ++
  "      --into <PROJECT>  Existing project to import into\n" ++
  "      --mode <MODE>     How imported entities combine with the project: replace, merge\n" ++
  "      --out <OUT>       Output path for the project\n" ++
  "  validate <PROJECT>  Validate a project file\n" ++
  "  schema              Print the project JSON Schema\n" ++
  "      --out <OUT>       Write the schema to a file instead\n" ++
  "  help                Print this help\n\n" ++
  "Options:\n" ++
  "      --config <PATH>   Settings file, modelforge.toml by default when present\n" ++
  "      --run-dir <DIR>   Output directory for runs\n" ++
  "  -h, --help            Print this help\n" ++
  "  -V, --version         Print the version\n"

/-- What is said of a command line that cannot be read. -/
def misuseText : String := "error: the arguments do not make a command\n\n" ++ helpText

/-- The exit codes of success, of failure and of misuse. -/
inductive ExitCode where
  | success
  | failure
  | misuse
  deriving DecidableEq, Repr

/-- The number of an exit code. -/
def ExitCode.number : ExitCode → Nat
  | .success => 0
  | .failure => 1
  | .misuse => 2

/-- Runs a command line. -/
def run (environment : Environment) (arguments : List String) : m ExitCode := do
  match Invocation.ofArguments arguments with
  | .error .version =>
    Host.print versionText
    return .success
  | .error .help =>
    Host.print helpText
    return .success
  | .error .misuse =>
    Host.printError misuseText
    return .misuse
  | .ok invocation =>
    match ← (execute (m := m) environment invocation).run with
    | .ok () => return .success
    | .error failure =>
      Host.printError ("error: " ++ failure.message ++ "\n")
      return .failure

end DomainModel.Command
