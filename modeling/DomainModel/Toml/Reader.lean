import DomainModel.Toml.Statement

/-! Reading a TOML text: its statements, carried out one after the other on a root table. -/

namespace DomainModel.Toml

/-- A document that is being read: the root, and the path to the table that assignments write to. -/
structure Progress where
  root : Members := []
  place : List String := []

/-- Carries out a statement; none when it would give a key twice or add to what cannot grow. -/
def Progress.run (progress : Progress) : Statement → Option Progress
  | .assign path key value => do
    return { progress with root := ← within progress.place (assign path key value) progress.root }
  | .table path key => do
    return { root := ← within path (openTable key) progress.root, place := path ++ [key] }
  | .element path key => do
    return { root := ← within path (openElement key) progress.root, place := path ++ [key] }

/-- The root table after a list of statements. -/
def build? (statements : List Statement) : Option Members :=
  (statements.foldlM Progress.run {}).map (·.root)

/-- Drops the mark with which a text may begin. -/
def dropMark : List Char → List Char
  | c :: rest => if c == '\uFEFF' then rest else c :: rest
  | [] => []

/-- The root table of a text; none when the text is not TOML. -/
def parse? (text : String) : Option Members := do build? (← statements? (dropMark text.toList))

end DomainModel.Toml
