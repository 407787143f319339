import DomainModel.Json.Value

/-! Reports: the issues found in a model, errors apart from warnings, each with the path of what it
is about. -/

namespace DomainModel

/-- How grave an issue is. -/
inductive Severity where
  | error
  | warning
  deriving DecidableEq, Repr

/-- An issue: a code for programs, a path and a message for people. -/
structure Issue where
  severity : Severity := .error
  code : String
  path : String
  message : String
  hint : Option String := none
  deriving DecidableEq, Repr

namespace Issue

/-- Whether the issue is an error. -/
def isError (issue : Issue) : Bool := issue.severity == .error

/-- Moves the path of an issue below another path; the root becomes that path itself. -/
def nestAt (base : String) (issue : Issue) : Issue :=
  { issue with path := if issue.path == "/" then base else base ++ issue.path }

/-- The line that shows an issue. -/
def line (issue : Issue) : String :=
  "[" ++ issue.code ++ "] " ++ issue.path ++ ": " ++ issue.message ++
    match issue.hint with
    | some hint => " (hint: " ++ hint ++ ")"
    | none => ""

end Issue

/-- The errors and the warnings of a check, each in the order in which they were found. -/
structure Report where
  errors : List Issue := []
  warnings : List Issue := []
  deriving DecidableEq, Repr

namespace Report

/-- Adds an issue to the list of its severity. -/
def push (report : Report) (issue : Issue) : Report :=
  match issue.severity with
  | .error => { report with errors := report.errors ++ [issue] }
  | .warning => { report with warnings := report.warnings ++ [issue] }

/-- Adds the issues of another report. -/
def merge (report other : Report) : Report :=
  { errors := report.errors ++ other.errors, warnings := report.warnings ++ other.warnings }

/-- Adds the issues of another report below a path. -/
def mergeAt (report : Report) (base : String) (other : Report) : Report :=
  report.merge { errors := other.errors.map (·.nestAt base), warnings := other.warnings.map (·.nestAt base) }

/-- The report of a list of issues. -/
def ofIssues (issues : List Issue) : Report :=
  { errors := issues.filter (·.isError), warnings := issues.filter (!·.isError) }

/-- Whether there are no errors. -/
def isOk (report : Report) : Bool := report.errors.isEmpty

/-- Whether an issue has this code. -/
def hasCode (report : Report) (code : String) : Bool :=
  (report.errors ++ report.warnings).any (·.code == code)

/-- The paths and messages of the errors. -/
def errorMessages (report : Report) : List (String × String) :=
  report.errors.map fun issue => (issue.path, issue.message)

end Report

open Json (Value)

/-- The JSON form of an issue. -/
def Issue.toJson (issue : Issue) : Value :=
  .object
    [("severity", .text (if issue.isError then "error" else "warning")), ("code", .text issue.code),
      ("path", .text issue.path), ("message", .text issue.message),
      ("hint", (issue.hint.map Value.text).getD .null)]

/-- The JSON form of a report. -/
def Report.toJson (report : Report) : Value :=
  .object
    [("errors", .list (report.errors.map Issue.toJson)), ("warnings", .list (report.warnings.map Issue.toJson))]

end DomainModel
