import DomainModel.Import
import DomainModel.Json.Printer
import DomainModel.Time.Instant

/-! The events of a run, and the line that each becomes in its log. -/

namespace DomainModel.Log

/-- How grave an event is, from the least grave on. -/
inductive Level where
  | trace
  | debug
  | info
  | warn
  | error
  deriving DecidableEq, Repr

/-- The rank of a level; a graver one has a higher rank. -/
def Level.rank : Level → Nat
  | .trace => 0
  | .debug => 1
  | .info => 2
  | .warn => 3
  | .error => 4

/-- The name of a level in the log. -/
def Level.name : Level → String
  | .trace => "TRACE"
  | .debug => "DEBUG"
  | .info => "INFO"
  | .warn => "WARN"
  | .error => "ERROR"

/-- An event: its kind stands first among its fields, its target says which part of the program it
is from. -/
structure Event where
  level : Level
  kind : String
  details : List (String × Json.Value) := []
  target : String := "modelforge"

namespace Event

/-- The fields of an event. -/
def fields (event : Event) : List (String × Json.Value) :=
  ("event", .text event.kind) :: event.details

/-- The line for an event at an instant. -/
def line (event : Event) (instant : Time.Instant) : String :=
  Json.Value.compact (.object
    [("timestamp", .text (instant.clockText ++ "Z")), ("level", .text event.level.name),
      ("fields", .object event.fields), ("target", .text event.target)]) ++ "\n"

end Event

/-- A count in an event. -/
def count (n : Nat) : Json.Value := .number (.integer n)

/-- The event for something that happened while a script was read. -/
def ofSqlNote (note : Sql.Note) : Event :=
  let target := "modelforge_import::ddl"
  match note with
  | .rejected statement => ⟨.warn, "ddl_rejected", [("statement", .text statement)], target⟩
  | .columnDuplicate table column =>
    ⟨.warn, "column_duplicate", [("table", .text table), ("column", .text column)], target⟩
  | .keyTruncated table column =>
    ⟨.warn, "composite_key_truncated", [("table", .text table), ("column", .text column)], target⟩
  | .noColumns table => ⟨.debug, "table_dropped", [("table", .text table), ("reason", .text "no_columns")], target⟩
  | .unmatchedStatement => ⟨.debug, "table_dropped", [("reason", .text "unmatched_syntax")], target⟩
  | .finished statements entities =>
    ⟨.debug, "ddl_parsed", [("statements", count statements), ("entities", count entities)], target⟩

/-- The event for something that happened while an export was read. -/
def ofExportNote (note : SchemaExport.Note) : Event :=
  let target := "modelforge_import::normalize"
  match note with
  | .entityWithoutName => ⟨.debug, "entity_dropped", [("reason", .text "missing_name")], target⟩
  | .unknownEntity => ⟨.debug, "relation_discarded", [("reason", .text "unknown_entity")], target⟩
  | .selfReference entity =>
    ⟨.debug, "relation_discarded", [("reason", .text "self_reference"), ("entity", .text entity)], target⟩
  | .finished entities relations =>
    ⟨.debug, "json_normalized", [("entities", count entities), ("relations", count relations)], target⟩

/-- The event for something that happened during an import. -/
def ofImportNote : ImportNote → Event
  | .sql note => ofSqlNote note
  | .json note => ofExportNote note

end DomainModel.Log
