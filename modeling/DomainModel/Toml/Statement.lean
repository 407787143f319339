import DomainModel.Toml.Quoted
import DomainModel.Toml.Scalar
import DomainModel.Toml.Value

/-! The statements of a TOML text: a line assigns a value, opens a table, or opens a further table
of a list. Values may be nested, and keys have parts, up to a limit. -/

namespace DomainModel.Toml

/-- What a line says. A key of several parts is the path to the table and the key in it. -/
inductive Statement where
  | assign (path : List String) (key : String) (value : Value)
  | table (path : List String) (key : String)
  | element (path : List String) (key : String)
  deriving Repr

/-- Lists and inline tables may be nested this deep, and keys may have this many parts. -/
def maxNesting : Nat := 79

/-- Drops spaces and tabs. -/
def skipSpaces (s : List Char) : List Char := s.dropWhile isSpace

/-- Drops a comment, if one begins here. -/
def skipComment : List Char → List Char
  | '#' :: rest => rest.dropWhile isPlainChar
  | s => s

/-- Drops the end of a line: spaces, a comment, the line end. None when something else is left on
the line. -/
def endLine? (s : List Char) : Option (List Char) :=
  match skipComment (skipSpaces s) with
  | [] => some []
  | '\n' :: rest => some rest
  | '\r' :: '\n' :: rest => some rest
  | _ => none

/-- Drops spaces, comments and line ends, inside a comment or not. -/
def skipLines : Bool → List Char → List Char
  | _, [] => []
  | _, '\n' :: rest => skipLines false rest
  | _, '\r' :: '\n' :: rest => skipLines false rest
  | true, c :: rest => if isPlainChar c then skipLines true rest else c :: rest
  | false, c :: rest =>
    if c == '#' then skipLines true rest else if isSpace c then skipLines false rest else c :: rest

/-- The characters of a key without quotes. -/
def isKeyChar (c : Char) : Bool := c.isAlphanum || c == '_' || c == '-'

/-- One part of a key. -/
def keyPart? (s : List Char) : Option (String × List Char) :=
  match oneLine? s with
  | some (text, after) => some (String.ofList text, after)
  | none =>
    let name := s.takeWhile isKeyChar
    if name.isEmpty then none else some (String.ofList name, s.dropWhile isKeyChar)

/-- The parts of a key, a number at most, and what follows the spaces after it. -/
def keyParts? : Nat → List Char → Option (List String × List Char)
  | 0, _ => none
  | most + 1, s => do
    let (part, after) ← keyPart? (skipSpaces s)
    match skipSpaces after with
    | '.' :: rest =>
      let (parts, after) ← keyParts? most rest
      return (part :: parts, after)
    | after => return ([part], after)

/-- A key: the path to a table, and the key in it. -/
def key? (s : List Char) : Option (List String × String × List Char) := do
  let (parts, after) ← keyParts? maxNesting s
  let last ← parts.getLast?
  return (parts.dropLast, last, after)

/-- A truth value, a number, a date or a time. A date may be followed by a space and a time. -/
def word? (s : List Char) : Option (Value × List Char) :=
  let word := s.takeWhile isWordChar
  let after := s.dropWhile isWordChar
  if word == ['t', 'r', 'u', 'e'] then some (.bool true, after)
  else if word == ['f', 'a', 'l', 's', 'e'] then some (.bool false, after)
  else if isDate word then
    match after with
    | ' ' :: rest =>
      if isOffsetTime (rest.takeWhile isWordChar) then some (.scalar, rest.dropWhile isWordChar)
      else some (.scalar, after)
    | _ => some (.scalar, after)
  else if isScalar word then some (.scalar, after)
  else none

mutual

/-- Reads a value with at most `depth` levels, in at most `steps` steps; gives what follows. -/
def value? (steps depth : Nat) (s : List Char) : Option (Value × List Char) :=
  match steps with
  | 0 => none
  | steps + 1 =>
    match s with
    | '"' :: _ => (quoted? s).map fun (text, after) => (.text (String.ofList text), after)
    | '\x27' :: _ => (quoted? s).map fun (text, after) => (.text (String.ofList text), after)
    | '[' :: rest =>
      if depth == 0 then none
      else (items? steps (depth - 1) (skipLines false rest)).map fun (items, after) => (.list items, after)
    | '{' :: rest =>
      if depth == 0 then none
      else
        match skipSpaces rest with
        | '}' :: after => some (.table .inlined [], after)
        | rest => (members? steps (depth - 1) [] rest).map fun (members, after) => (.table .inlined members, after)
    | s => word? s

/-- The items of a list up to its end. A comma may follow the last. -/
def items? (steps depth : Nat) (s : List Char) : Option (List Value × List Char) :=
  match steps with
  | 0 => none
  | steps + 1 =>
    match s with
    | ']' :: after => some ([], after)
    | s => do
      let (item, after) ← value? steps depth s
      match skipLines false after with
      | ']' :: after => return ([item], after)
      | ',' :: rest =>
        let (items, after) ← items? steps depth (skipLines false rest)
        return (item :: items, after)
      | _ => none

/-- The members of an inline table up to its end, added to those before them. -/
def members? (steps depth : Nat) (before : Members) (s : List Char) : Option (Members × List Char) :=
  match steps with
  | 0 => none
  | steps + 1 => do
    let (path, key, after) ← key? s
    match after with
    | '=' :: rest =>
      let (value, after) ← value? steps depth (skipSpaces rest)
      let members ← assign path key value before
      match skipSpaces after with
      | '}' :: after => return (members, after)
      | ',' :: rest => members? steps depth members rest
      | _ => none
    | _ => none

end

/-- The header of a table, after its bracket, up to the closing one. -/
def header? (s : List Char) : Option (Statement × List Char) := do
  let (path, key, after) ← key? s
  match after with
  | ']' :: after => return (.table path key, after)
  | _ => none

/-- The header of a table of a list, after its brackets, up to the closing ones. -/
def elementHeader? (s : List Char) : Option (Statement × List Char) := do
  let (path, key, after) ← key? s
  match after with
  | ']' :: ']' :: after => return (.element path key, after)
  | _ => none

/-- An assignment. Every level of a value takes two steps at most, and so does every item. -/
def assignment? (s : List Char) : Option (Statement × List Char) := do
  let (path, key, after) ← key? s
  match after with
  | '=' :: rest =>
    let (value, after) ← value? (2 * rest.length + 2) maxNesting (skipSpaces rest)
    return (.assign path key value, after)
  | _ => none

/-- A statement at the front of a text. -/
def statement? : List Char → Option (Statement × List Char)
  | '[' :: '[' :: rest => elementHeader? rest
  | '[' :: rest => header? rest
  | s => assignment? s

/-- Whether a line that begins like this has no statement. -/
def startsVacant : List Char → Bool
  | [] => true
  | c :: _ => c == '#' || c == '\n' || c == '\r'

/-- The statements of a text of at most so many lines. -/
def statementsWithin : Nat → List Char → Option (List Statement)
  | _, [] => some []
  | 0, _ :: _ => none
  | lines + 1, s => do
    let s := skipSpaces s
    if startsVacant s then
      statementsWithin lines (← endLine? s)
    else
      let (statement, after) ← statement? s
      return statement :: (← statementsWithin lines (← endLine? after))

/-- The statements of a text. Every line but the last takes a character. -/
def statements? (s : List Char) : Option (List Statement) := statementsWithin (s.length + 1) s

end DomainModel.Toml
