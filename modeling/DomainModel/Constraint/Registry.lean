import DomainModel.Text.Blank

/-! The constraints that fields may carry: which groups of types each applies to, how many values it
takes and which of them it needs. A type that belongs to no group is unrestricted. -/

namespace DomainModel

/-- A group of field types. -/
inductive TypeGroup where
  | string
  | number
  | date
  | boolean
  | binary
  | collection
  | object
  /-- Every group. -/
  | all
  deriving DecidableEq, Repr

/-- How many values a constraint takes. -/
inductive Arity where
  | zero
  | one
  | two
  deriving DecidableEq, Repr

/-- Which values must be there. -/
inductive NeededValues where
  | nothing
  | first
  | both
  | anyOne
  deriving DecidableEq, Repr

/-- A constraint that fields may carry. -/
structure ConstraintRule where
  name : String
  groups : List TypeGroup
  arity : Arity
  /-- The values that must be there, if that does not follow from the arity. -/
  explicitNeed : Option NeededValues
  labels : Option String × Option String
  placeholders : Option String × Option String

namespace ConstraintRule

/-- The values that must be there. -/
def need (rule : ConstraintRule) : NeededValues :=
  match rule.explicitNeed, rule.arity with
  | some need, _ => need
  | none, .zero => .nothing
  | none, .one => .first
  | none, .two => .both

/-- Whether the rule applies to the types of a group. -/
def appliesTo (rule : ConstraintRule) (group : TypeGroup) : Bool :=
  rule.groups.any fun candidate => candidate == .all || candidate == group

/-- A rule without values. -/
def mark (name : String) (groups : List TypeGroup) : ConstraintRule :=
  ⟨name, groups, .zero, none, (none, none), (none, none)⟩

/-- A rule with one value. -/
def withOne (name : String) (groups : List TypeGroup) (label placeholder : String) : ConstraintRule :=
  ⟨name, groups, .one, none, (some label, none), (some placeholder, none)⟩

/-- A rule with two values. -/
def withTwo (name : String) (groups : List TypeGroup) (need : NeededValues) (labels placeholders : String × String) :
    ConstraintRule :=
  ⟨name, groups, .two, some need, (some labels.1, some labels.2), (some placeholders.1, some placeholders.2)⟩

/-- Every rule, ordered by name. -/
def all : List ConstraintRule := [
  mark "AssertFalse" [.boolean],
  mark "AssertTrue" [.boolean],
  withTwo "DecimalMax" [.number] .first ("Value", "Inclusive") ("100.00", "true"),
  withTwo "DecimalMin" [.number] .first ("Value", "Inclusive") ("0.00", "true"),
  withTwo "Digits" [.number] .both ("Integer digits", "Fraction digits") ("10", "2"),
  mark "Email" [.string],
  mark "Future" [.date],
  mark "FutureOrPresent" [.date],
  withOne "Max" [.number] "Maximum" "100",
  withOne "Min" [.number] "Minimum" "0",
  mark "Negative" [.number],
  mark "NegativeOrZero" [.number],
  mark "NotBlank" [.string],
  mark "NotEmpty" [.string, .collection],
  mark "NotNull" [.all],
  mark "Null" [.all],
  mark "Past" [.date],
  mark "PastOrPresent" [.date],
  withOne "Pattern" [.string] "Regular expression" "^[A-Za-z]+$",
  mark "Positive" [.number],
  mark "PositiveOrZero" [.number],
  withTwo "Size" [.string, .collection] .anyOne ("Min", "Max") ("0", "255")]

/-- The rule of a name. -/
def find? (name : String) : Option ConstraintRule := all.find? (·.name == name)

end ConstraintRule

namespace TypeGroup

/-- The groups of the types that stand for themselves. -/
def scalarTypes : List (String × TypeGroup) :=
  ["String", "Character", "char", "UUID", "Text"].map (·, .string) ++
  ["Integer", "int", "Long", "long", "Short", "short", "Byte", "byte", "Double", "double", "Float", "float",
    "BigDecimal", "BigInteger"].map (·, .number) ++
  ["LocalDate", "LocalDateTime", "LocalTime", "Instant", "Date", "ZonedDateTime", "OffsetDateTime"].map (·, .date) ++
  ["Boolean", "boolean"].map (·, .boolean) ++
  ["Blob", "Binary"].map (·, .binary) ++
  ["Object", "Map", "JsonNode"].map (·, .object)

/-- The groups of the types that take type arguments. -/
def genericTypes : List (String × TypeGroup) :=
  ["List", "Set", "Collection", "Iterable"].map (·, .collection) ++ [("Map", .object)]

/-- Whether a text ends with a pair of brackets. -/
def endsWithBrackets (s : List Char) : Bool := [']', '['].isPrefixOf s.reverse

/-- The group of a field type. Arrays are collections whatever they hold, and so are the generic
collections; the arguments of a generic type do not matter. -/
def ofType? (typeName : String) : Option TypeGroup :=
  let trimmed := Text.trimChars typeName.toList
  if endsWithBrackets trimmed then some .collection
  else
    let base := String.ofList (Text.trimChars (trimmed.takeWhile (· != '<')))
    if trimmed.contains '<' then genericTypes.lookup base else scalarTypes.lookup base

end TypeGroup

namespace ConstraintRule

/-- The names of the constraints that a field of this type may carry, in order. -/
def optionsFor (typeName : String) : List String :=
  let offered : ConstraintRule → Bool :=
    match TypeGroup.ofType? typeName with
    | some group => (·.appliesTo group)
    | none => fun _ => true
  (all.filter offered).map (·.name)

/-- Whether a field of this type may carry the constraint. -/
def isApplicable (name typeName : String) : Bool :=
  match find? name, TypeGroup.ofType? typeName with
  | some rule, some group => rule.appliesTo group
  | some _, none => true
  | none, _ => false

end ConstraintRule

end DomainModel
