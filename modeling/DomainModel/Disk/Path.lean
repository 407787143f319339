import DomainModel.Text.Split

/-! Paths: the way from the root or the working directory to a file or directory, a step for each
part between the slashes. Empty parts and single dots lead nowhere and are dropped, except that at
the end of a path they ask for a directory. -/

namespace DomainModel

/-- A step along a path. -/
inductive Step where
  /-- To the directory around this one. -/
  | up
  /-- To an entry of this directory. -/
  | down (name : String)
  deriving DecidableEq, Repr

/-- What stands after the last step of a path. -/
inductive PathEnd where
  | plain
  | slash
  | dot
  deriving DecidableEq, Repr

/-- A path. -/
structure Path where
  absolute : Bool := false
  steps : List Step
  ending : PathEnd := .plain
  deriving DecidableEq, Repr

namespace Path

/-- The step that a part of a path stands for, if any. -/
def stepOf? (part : List Char) : Option Step :=
  if part.isEmpty || part == ['.'] then none
  else if part == ['.', '.'] then some .up
  else some (.down (String.ofList part))

/-- What the parts of a path end in: trailing slashes leave empty parts. -/
def endingOf (parts : List (List Char)) : PathEnd :=
  if (parts.reverse.dropWhile List.isEmpty).head? == some ['.'] then .dot
  else if parts.getLast? == some [] then .slash
  else .plain

/-- The path that a text spells. -/
def ofText (text : String) : Path :=
  let parts := Text.splitAt '/' text.toList
  ⟨text.toList.head? == some '/', parts.filterMap stepOf?, endingOf parts⟩

/-- The text of a step. -/
def stepText : Step → String
  | .up => ".."
  | .down name => name

/-- A text that spells the path. -/
def toText (path : Path) : String :=
  let steps := "/".intercalate (path.steps.map stepText)
  let body := if path.absolute then "/" ++ steps else if path.steps.isEmpty then "." else steps
  match path.ending with
  | .plain => body
  | .slash => body ++ "/"
  | .dot => body ++ "/."

/-- The name at the end of a path; none when the last step leads up, or when there is no step. -/
def name? (path : Path) : Option String :=
  match path.steps.getLast? with
  | some (.down name) => some name
  | _ => none

/-- The directory that the last step starts from. -/
def parent? (path : Path) : Option Path :=
  if path.steps.isEmpty then none else some { path with steps := path.steps.dropLast, ending := .plain }

/-- The directory that a text names in front of the last step, if it names one. A single step has none, but after a
single dot it has. -/
def directory? (text : String) : Option Path :=
  let parts := (Text.splitAt '/' text.toList).reverse.dropWhile fun part => (stepOf? part).isNone
  if parts.length ≤ 1 then none else (ofText text).parent?

/-- The path to another entry of the same directory. -/
def sibling (path : Path) (name : String) : Path :=
  { path with steps := path.steps.dropLast ++ [.down name], ending := .plain }

/-- The text of the path to an entry of a directory that is itself given by its text. -/
def join (directory name : String) : String :=
  if directory.isEmpty || directory.endsWith "/" then directory ++ name else directory ++ "/" ++ name

end Path

end DomainModel
