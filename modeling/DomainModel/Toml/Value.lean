/-! TOML values, and how a document grows them. A table grows by its own header, by the headers of
tables inside it or by dotted keys, and how it came to be decides which of these may still add to
it. No key is ever given twice. -/

namespace DomainModel.Toml

/-- How a table came to be. -/
inductive Origin where
  /-- By a header of its own, or as the root. -/
  | header
  /-- By the header of a table inside it. -/
  | implied
  /-- By a dotted key. -/
  | dotted
  /-- As a value between braces, to which nothing can be added. -/
  | inlined
  deriving DecidableEq, Repr

/-- A value. -/
inductive Value where
  | text (value : String)
  | bool (value : Bool)
  /-- A number, a date or a time. -/
  | scalar
  | list (items : List Value)
  | table (origin : Origin) (members : List (String × Value))
  /-- A list of tables that is grown by headers: the latest, and those before it. -/
  | tables (latest : List (String × Value)) (earlier : List (List (String × Value)))
  deriving Repr, Inhabited

/-- The members of a table. -/
abbrev Members := List (String × Value)

/-- Changes what is under a key; `change` is told what is there and may refuse. -/
def alter (key : String) (change : Option Value → Option Value) : Members → Option Members
  | [] => (change none).map fun value => [(key, value)]
  | (k, v) :: rest =>
    if k == key then (change (some v)).map fun value => (k, value) :: rest
    else (alter key change rest).map ((k, v) :: ·)

/-- Sets a value under a free key. -/
def insertNew (key : String) (value : Value) : Members → Option Members :=
  alter key fun
    | none => some value
    | some _ => none

/-- Sets a value under a dotted key. The table that receives it must be the one that is written to,
or have come about by dotted keys; tables that stand between the two may also be implied by a header
or be the latest of a list. -/
def assign (path : List String) (key : String) (value : Value) (members : Members) : Option Members :=
  match path with
  | [] => insertNew key value members
  | step :: rest =>
    members |> alter step fun
      | none => (assign rest key value []).map (.table .dotted)
      | some (.table .dotted inner) => (assign rest key value inner).map (.table .dotted)
      | some (.table .implied inner) =>
        if rest.isEmpty then none else (assign rest key value inner).map (.table .implied)
      | some (.tables latest earlier) =>
        if rest.isEmpty then none else (assign rest key value latest).map (.tables · earlier)
      | some _ => none

/-- Changes the table that a header names; of a list of tables that is the latest. Tables on the way
that are not there yet become implied ones. -/
def within (path : List String) (change : Members → Option Members) (members : Members) :
    Option Members :=
  match path with
  | [] => change members
  | step :: rest =>
    members |> alter step fun
      | none => (within rest change []).map (.table .implied)
      | some (.table .inlined _) => none
      | some (.table origin inner) => (within rest change inner).map (.table origin)
      | some (.tables latest earlier) => (within rest change latest).map (.tables · earlier)
      | some _ => none

/-- Opens the table of a header. It may have been implied before, and no more. -/
def openTable (key : String) : Members → Option Members :=
  alter key fun
    | none => some (.table .header [])
    | some (.table .implied inner) => some (.table .header inner)
    | some _ => none

/-- Opens a further table of a list. -/
def openElement (key : String) : Members → Option Members :=
  alter key fun
    | none => some (.tables [] [])
    | some (.tables latest earlier) => some (.tables [] (latest :: earlier))
    | some _ => none

end DomainModel.Toml
