import DomainModel.Proofs.SqlKeys
import DomainModel.Text.Digit

/-! The scripts that the grammar of `CREATE TABLE` gives, and what they say. A table has a name and a body of
columns and clauses; it is a list of tokens, and a text spells the tokens with blanks between them. Keywords
may be written in any case and names in any kind of quotes. What a table says does not depend on how it is
spelled: the fields of its columns, marked as key by themselves or by a clause, and one key chosen among them. -/

namespace DomainModel.Sql.Grammar

/-! ### Words -/

inductive Keyword where
  | create
  | table
  | ifWord
  | not
  | existsWord
  | constraint
  | primary
  | unique
  | foreign
  | references
  | check
  | key
  | index
  | null
  deriving DecidableEq, Repr

def Keyword.letters : Keyword → String
  | .create => "create"
  | .table => "table"
  | .ifWord => "if"
  | .not => "not"
  | .existsWord => "exists"
  | .constraint => "constraint"
  | .primary => "primary"
  | .unique => "unique"
  | .foreign => "foreign"
  | .references => "references"
  | .check => "check"
  | .key => "key"
  | .index => "index"
  | .null => "null"

/-- The words that begin a clause or a flag. -/
def reserved : List Keyword := [.constraint, .primary, .unique, .foreign, .check, .key, .index, .not, .null]

/-- ASCII letters, digits and the underscore. -/
def IsPlain (c : Char) : Prop := c.isAlphanum = true ∨ c = '_'

instance : DecidablePred IsPlain := fun c => inferInstanceAs (Decidable (c.isAlphanum = true ∨ c = '_'))

/-- A name or a type: plain characters, a letter first, and none of the reserved words. -/
structure Name where
  word : List Char
  first : word.head?.any Char.isAlpha = true
  plain : word.all (IsPlain ·) = true
  free : ∀ keyword ∈ reserved, word.map Char.toLower ≠ keyword.letters.toList

structure Number where
  digits : List Char
  some_digit : digits ≠ []
  plain : digits.all Char.isDigit = true

/-! ### Tokens and their spellings -/

inductive Mark where
  | opening
  | closing
  | comma
  deriving DecidableEq, Repr

def Mark.char : Mark → Char
  | .opening => '('
  | .closing => ')'
  | .comma => ','

inductive Token where
  | keyword (keyword : Keyword)
  | name (name : Name)
  | sqlType (name : Name)
  | number (number : Number)
  | tableName (schema : Option Name) (name : Name)
  | mark (mark : Mark)

/-- Everything but punctuation. -/
def Token.isWord : Token → Bool
  | .mark _ => false
  | _ => true

/-- What may stand around a name. -/
def quotes : List (Char × Char) := [('`', '`'), ('"', '"'), ('[', ']')]

inductive Quoted (word : List Char) : List Char → Prop where
  | bare : Quoted word word
  | between {quote} (hquote : quote ∈ quotes) : Quoted word (quote.1 :: (word ++ [quote.2]))

/-- The spellings of a token. The name of a table may follow that of a schema, without a gap. -/
inductive Token.Spells : Token → List Char → Prop where
  | keyword {keyword text} (hcase : text.map Char.toLower = keyword.letters.toList) : Spells (.keyword keyword) text
  | name {name text} (hquoted : Quoted name.word text) : Spells (.name name) text
  | sqlType {name} : Spells (.sqlType name) name.word
  | number {number} : Spells (.number number) number.digits
  | tableName {name text} (hquoted : Quoted name.word text) : Spells (.tableName none name) text
  | qualified {schema name first second} (hschema : Quoted schema.word first) (hname : Quoted name.word second) :
      Spells (.tableName (some schema) name) (first ++ '.' :: second)
  | mark {mark} : Spells (.mark mark) [mark.char]

/-- A gap holds nothing but blanks. -/
def IsGap (gap : List Char) : Prop := ∀ c ∈ gap, Text.isBlank c = true

instance (gap : List Char) : Decidable (IsGap gap) := decidable_of_iff (gap.all Text.isBlank = true) List.all_eq_true

/-- The text spells the tokens, with a gap in front of each and one at the end. Between two words, quoted or
not, the gap is not empty; `afterWord` says that a word comes before the text. -/
inductive Written : Bool → List Token → List Char → Prop where
  | done {afterWord gap} (hgap : IsGap gap) : Written afterWord [] gap
  | token {afterWord gap token text tokens rest} (hgap : IsGap gap)
      (hneeded : afterWord = true → token.isWord = true → gap ≠ []) (htoken : token.Spells text)
      (hrest : Written token.isWord tokens rest) : Written afterWord (token :: tokens) (gap ++ (text ++ rest))

/-! ### Tables -/

inductive Flag where
  | notNull
  | unique
  | primaryKey
  deriving DecidableEq, Repr

def Flag.words : Flag → List Keyword
  | .notNull => [.not, .null]
  | .unique => [.unique]
  | .primaryKey => [.primary, .key]

/-- The numbers after a type. -/
inductive Arguments where
  | absent
  | one (number : Number)
  | two (number more : Number)

structure Column where
  name : Name
  sqlType : Name
  arguments : Arguments
  flags : List Flag

inductive Clause where
  | primaryKey (constraint : Option Name) (names : List Name)
  | unique (names : List Name)
  | foreignKey (names : List Name) (table : Name) (referenced : List Name)

inductive Item where
  | column (column : Column)
  | clause (clause : Clause)

def Item.column? : Item → Option Column
  | .column part => some part
  | .clause _ => none

/-- The letters of a name that count when the names of columns are told apart. -/
def essence (word : List Char) : List Char := (word.filter (· != '_')).map Char.toLower

/-- A table has a column, and its columns have different names. -/
structure Table where
  schema : Option Name
  name : Name
  items : List Item
  some_column : items.filterMap Item.column? ≠ []
  distinct : ((items.filterMap Item.column?).map (essence ·.name.word)).Nodup

def Table.columns (table : Table) : List Column := table.items.filterMap Item.column?

/-! ### Tables as tokens -/

def keywords (words : List Keyword) : List Token := words.map .keyword

def inParentheses (tokens : List Token) : List Token := .mark .opening :: (tokens ++ [.mark .closing])

/-- Parts with commas between them. -/
def withCommas : List (List Token) → List Token
  | [] => []
  | [part] => part
  | part :: parts => part ++ .mark .comma :: withCommas parts

def nameList (names : List Name) : List Token := inParentheses (withCommas (names.map fun name => [.name name]))

def Arguments.tokens : Arguments → List Token
  | .absent => []
  | .one number => inParentheses [.number number]
  | .two number more => inParentheses [.number number, .mark .comma, .number more]

def Column.tokens (column : Column) : List Token :=
  .name column.name :: .sqlType column.sqlType ::
    (column.arguments.tokens ++ column.flags.flatMap fun flag => keywords flag.words)

def Clause.tokens : Clause → List Token
  | .primaryKey none names => keywords [.primary, .key] ++ nameList names
  | .primaryKey (some constraint) names =>
      .keyword .constraint :: .name constraint :: (keywords [.primary, .key] ++ nameList names)
  | .unique names => keywords [.unique] ++ nameList names
  | .foreignKey names table referenced =>
      keywords [.foreign, .key] ++ (nameList names ++ .keyword .references :: .name table :: nameList referenced)

def Item.tokens : Item → List Token
  | .column part => part.tokens
  | .clause part => part.tokens

/-- The tokens of the statement that creates the table. -/
def Table.tokens (ifNotExists : Bool) (table : Table) : List Token :=
  keywords [.create, .table] ++ ((if ifNotExists then keywords [.ifWord, .not, .existsWord] else []) ++
    .tableName table.schema table.name :: inParentheses (withCommas (table.items.map Item.tokens)))

/-- The statements of a script, with empty ones allowed between them; `pieces` are the texts between the
semicolons. -/
inductive WrittenScript : List Table → List (List Char) → Prop where
  | done : WrittenScript [] []
  | blank {tables piece pieces} (hpiece : IsGap piece) (hrest : WrittenScript tables pieces) :
      WrittenScript tables (piece :: pieces)
  | table {table tables piece pieces} (ifNotExists : Bool) (hpiece : Written false (table.tokens ifNotExists) piece)
      (hrest : WrittenScript tables pieces) : WrittenScript (table :: tables) (piece :: pieces)

/-! ### What tables say -/

/-- The names that a clause lists as key, in lower case. -/
def Item.keys : Item → List (List Char)
  | .clause (.primaryKey _ names) => names.map (·.word.map Char.toLower)
  | _ => []

def Table.keys (table : Table) : List (List Char) := table.items.flatMap Item.keys

/-- The length of a text: the number after the type, when it is the only one and fits 32 bits. -/
def Arguments.length? : Arguments → Option UInt32
  | .one number =>
      let length := Text.digitsValue number.digits
      if length < Nat.pow 2 32 then some (UInt32.ofNat length) else none
  | _ => none

/-- The field of a column, before a key is chosen. -/
def Column.field (keys : List (List Char)) (column : Column) : Field where
  name := Naming.identifierCase (String.ofList column.name.word)
  typeName := fieldType column.sqlType.word
  maxLength := if fieldType column.sqlType.word = "String" then column.arguments.length? else none
  primaryKey := keys.contains (column.name.word.map Char.toLower) || column.flags.contains .primaryKey
  required := column.flags.contains .notNull
  unique := column.flags.contains .unique

/-- The entity of a table. -/
structure Table.Gives (table : Table) (entity : Entity) : Prop where
  whole : entity = { name := Naming.typeNameCase (String.ofList table.name.word), fields := entity.fields }
  keyed : Keyed (table.columns.map (·.field table.keys)) entity.fields

end DomainModel.Sql.Grammar
