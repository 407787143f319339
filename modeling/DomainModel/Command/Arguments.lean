import DomainModel.Import
import DomainModel.Settings

/-! The arguments of a command line: options that may stand anywhere, a command, its options and its
operands. Options for the settings may stand before the command or after it, where they count for
more. An option is given once at each of these places. -/

namespace DomainModel.Command

/-- The commands. -/
inductive Name where
  | importFrom (format : ImportFormat)
  | validate
  | schema
  deriving DecidableEq, Repr

/-- The word for a command. -/
def Name.word : Name → String
  | .importFrom .sql => "import-sql"
  | .importFrom .json => "import-json"
  | .validate => "validate"
  | .schema => "schema"

/-- All commands. -/
def Name.all : List Name := [.importFrom .sql, .importFrom .json, .validate, .schema]

/-- The command of a word. -/
def Name.ofWord? (word : String) : Option Name := Name.all.find? (·.word == word)

/-- The options. -/
inductive Flag where
  | config
  | runDirectory
  | into
  | mode
  | out
  deriving DecidableEq, Repr

/-- The word for an option, without its dashes. -/
def Flag.word : Flag → String
  | .config => "config"
  | .runDirectory => "run-dir"
  | .into => "into"
  | .mode => "mode"
  | .out => "out"

/-- Whether an option can have a value: the name of a mode, or a path, which is never empty. -/
def Flag.allows (flag : Flag) (value : String) : Bool :=
  match flag with
  | .mode => (ImportMode.ofName? value).isSome
  | _ => !value.isEmpty

/-- The options that stand anywhere. -/
def sharedFlags : List Flag := [.config, .runDirectory]

/-- The options that stand after a command. -/
def Name.flags : Name → List Flag
  | .importFrom _ => sharedFlags ++ [.into, .mode, .out]
  | .validate => sharedFlags
  | .schema => sharedFlags ++ [.out]

/-- How many operands a command has. -/
def Name.operands : Name → Nat
  | .schema => 0
  | _ => 1

/-- What a command is to do. -/
inductive Task where
  | importFile (format : ImportFormat) (input : String) (into : Option String) (mode : Option ImportMode)
      (out : Option String)
  | validate (project : String)
  | schema (out : Option String)
  deriving DecidableEq, Repr

/-- What a command line asks for. -/
structure Invocation where
  config : Option String
  runDirectory : Option String
  task : Task
  deriving DecidableEq, Repr

/-- Why a command line is not carried out. -/
inductive Stop where
  | version
  | help
  | misuse
  deriving DecidableEq, Repr

/-- What words are being read for. -/
inductive Focus where
  /-- A command is still to come. -/
  | start
  /-- The options and operands of a command. -/
  | command (name : Name)
  /-- The commands that help is asked about. -/
  | help
  deriving DecidableEq, Repr

/-- What has been read of a command line. -/
structure Reading where
  focus : Focus := .start
  /-- The options before the command. -/
  before : List (Flag × String) := []
  /-- The options after the command. -/
  after : List (Flag × String) := []
  operands : List String := []
  /-- An option whose value comes next. -/
  awaiting : Option Flag := none
  /-- Two dashes have been read: only operands follow. -/
  literal : Bool := false
  deriving DecidableEq, Repr

namespace Reading

/-- The options that may come next. -/
def flags (reading : Reading) : List Flag :=
  match reading.focus with
  | .start => sharedFlags
  | .command name => name.flags
  | .help => []

/-- Takes in an option with its value. -/
def give (reading : Reading) (flag : Flag) (value : String) : Except Stop Reading :=
  let given := if reading.focus == .start then reading.before else reading.after
  if !flag.allows value || given.any (·.1 == flag) then .error .misuse
  else if reading.focus == .start then .ok { reading with before := (flag, value) :: given, awaiting := none }
  else .ok { reading with after := (flag, value) :: given, awaiting := none }

/-- Takes in a word that is no option and no value of one. -/
def takeWord (reading : Reading) (word : String) : Except Stop Reading :=
  match reading.focus with
  | .start =>
    if reading.literal then .error .misuse
    else if word == "help" then .ok { reading with focus := .help }
    else
      match Name.ofWord? word with
      | some name => .ok { reading with focus := .command name }
      | none => .error .misuse
  | .command name =>
    if word.isEmpty || name.operands ≤ reading.operands.length then .error .misuse
    else .ok { reading with operands := reading.operands ++ [word] }
  | .help => if word == "help" || (Name.ofWord? word).isSome then .ok reading else .error .misuse

/-- Takes in an option by its word, with a value attached or not. -/
def takeOption (reading : Reading) (word : String) (value : Option String) : Except Stop Reading :=
  match reading.flags.find? (·.word == word), value with
  | some flag, some value => reading.give flag value
  | some flag, none => .ok { reading with awaiting := some flag }
  | none, _ => .error .misuse

/-- Takes in an argument that begins with two dashes and goes on: an option, the value after an
equals sign. -/
def takeLong (reading : Reading) (body : List Char) : Except Stop Reading :=
  let word := String.ofList (body.takeWhile (· != '='))
  match body.dropWhile (· != '=') with
  | _ :: value => reading.takeOption word (some (String.ofList value))
  | [] =>
    if word == "help" then .error .help
    else if word == "version" && reading.focus == .start then .error .version
    else reading.takeOption word none

/-- Takes in an argument that begins with one dash and a letter. -/
def takeShort (reading : Reading) (letter : Char) : Except Stop Reading :=
  if letter == 'h' then .error .help
  else if letter == 'V' && reading.focus == .start then .error .version
  else .error .misuse

/-- Takes in an argument. The value of an option does not look like an option itself. -/
def take (reading : Reading) (argument : String) : Except Stop Reading :=
  match reading.awaiting, argument.toList with
  | some _, '-' :: _ :: _ => .error .misuse
  | some flag, _ => reading.give flag argument
  | none, chars =>
    if reading.literal then reading.takeWord argument
    else
      match chars with
      | ['-', '-'] => .ok { reading with literal := true }
      | '-' :: '-' :: body => reading.takeLong body
      | '-' :: letter :: _ => reading.takeShort letter
      | _ => reading.takeWord argument

/-- The value of an option; after the command it counts for more. -/
def value? (reading : Reading) (flag : Flag) : Option String :=
  (reading.after.lookup flag).or (reading.before.lookup flag)

/-- The task of a command with its operands. -/
def task? (reading : Reading) (name : Name) : Option Task :=
  match name, reading.operands with
  | .importFrom format, [input] =>
    some (.importFile format input (reading.value? .into) ((reading.value? .mode).bind ImportMode.ofName?)
      (reading.value? .out))
  | .validate, [project] => some (.validate project)
  | .schema, [] => some (.schema (reading.value? .out))
  | _, _ => none

/-- What has been asked for when the command line is over. -/
def finish (reading : Reading) : Except Stop Invocation :=
  match reading.awaiting, reading.focus with
  | none, .help => .error .help
  | none, .command name =>
    match reading.task? name with
    | some task => .ok { config := reading.value? .config, runDirectory := reading.value? .runDirectory, task }
    | none => .error .misuse
  | _, _ => .error .misuse

end Reading

/-- Reads the arguments of a command line. -/
def Invocation.ofArguments (arguments : List String) : Except Stop Invocation := do
  (← arguments.foldlM Reading.take {}).finish

end DomainModel.Command
