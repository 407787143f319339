import DomainModel.Json.Value

/-! Schemas of JSON documents, in so far as a project file needs them: which kinds of value may
stand somewhere, what a record must and may hold, and what the items of a list look like. A schema
that has a name is shown by that name and spelled out once, among the definitions. -/

namespace DomainModel

/-- A kind of JSON value. -/
inductive ValueKind where
  | object
  | list
  | text
  | bool
  | integer
  | null
  deriving DecidableEq, Repr

namespace ValueKind

/-- The name of a kind. -/
def label : ValueKind → String
  | .object => "object"
  | .list => "array"
  | .text => "string"
  | .bool => "boolean"
  | .integer => "integer"
  | .null => "null"

/-- Whether a value is of a kind. A number counts as an integer when it is whole, however it is
written. -/
def accepts : ValueKind → Json.Value → Bool
  | .object, .object _ => true
  | .list, .list _ => true
  | .text, .text _ => true
  | .bool, .bool _ => true
  | .integer, .number n => n.isWhole
  | .null, .null => true
  | _, _ => false

end ValueKind

/-- What a schema says for its readers. -/
structure SchemaNotes where
  description : Option String := none
  default : Option Json.Value := none

/-- A schema. -/
inductive Schema where
  /-- A value of one of the kinds. -/
  | scalar (notes : SchemaNotes) (kinds : List ValueKind)
  /-- One of several strings. -/
  | choice (notes : SchemaNotes) (options : List String)
  /-- A number of one of the kinds that is not negative; the format is for readers. -/
  | count (kinds : List ValueKind) (format : String)
  /-- A list of alike items. -/
  | list (notes : SchemaNotes) (item : Schema)
  /-- An object with members that must be there and members of known shape. -/
  | record (notes : SchemaNotes) (required : List String) (properties : List (String × Schema))
  /-- A schema that stands among the definitions. -/
  | named (name : String) (schema : Schema)
  /-- One of several schemas. -/
  | anyOf (options : List Schema)

namespace Schema

open Json (Value)

/-- The members that show the notes. -/
def notesMembers (notes : SchemaNotes) : List (String × Value) :=
  (notes.description.map fun text => ("description", Value.text text)).toList ++
    (notes.default.map fun value => ("default", value)).toList

/-- The member that shows the kinds: one, or a list of several. -/
def kindsMember : List ValueKind → String × Value
  | [kind] => ("type", .text kind.label)
  | kinds => ("type", .list (kinds.map fun kind => .text kind.label))

mutual

/-- The members that spell out a schema. -/
def toMembers : Schema → List (String × Value)
  | .scalar notes kinds => notesMembers notes ++ [kindsMember kinds]
  | .choice notes options =>
    notesMembers notes ++ [("type", .text "string"), ("enum", .list (options.map .text))]
  | .count kinds format =>
    [kindsMember kinds, ("format", .text format), ("minimum", .number (.float (Binary64.zero false)))]
  | .list notes item =>
    notesMembers notes ++ [("type", .text "array"), ("items", .object (toMembers item))]
  | .record notes required properties =>
    notesMembers notes ++ [("type", .text "object")] ++
      (if required.isEmpty then [] else [("required", .list (required.map .text))]) ++
      [("properties", .object (propertiesMembers properties))]
  | .named name _ => [("$ref", .text ("#/definitions/" ++ name))]
  | .anyOf options => [("anyOf", .list (optionsValues options))]

/-- The properties of a record. -/
def propertiesMembers : List (String × Schema) → List (String × Value)
  | [] => []
  | (key, schema) :: rest => (key, .object (toMembers schema)) :: propertiesMembers rest

/-- The schemas of which one has to fit. -/
def optionsValues : List Schema → List Value
  | [] => []
  | schema :: rest => .object (toMembers schema) :: optionsValues rest

end

/-- What a name stands for. -/
def definition : Schema → String × Value
  | .named name schema => (name, .object (toMembers schema))
  | schema => ("", .object (toMembers schema))

end Schema

end DomainModel
