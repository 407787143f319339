import DomainModel.Text.Blank
import DomainModel.Text.Case

/-! Words that cannot serve as names: the keywords and literals of the object language that classes
are generated in, and the SQL words that break generated queries. `order` and `user` are not among
the SQL words, because table names for such entities are quoted and both are common names. -/

namespace DomainModel.Naming

/-- Keywords and literals of the object language, in lower case as they are written. -/
def languageKeywords : List String := [
  "abstract", "assert", "boolean", "break", "byte", "case", "catch", "char", "class", "const",
  "continue", "default", "do", "double", "else", "enum", "extends", "false", "final", "finally", "float",
  "for", "goto", "if", "implements", "import", "instanceof", "int", "interface", "long", "native", "new",
  "null", "package", "private", "protected", "public", "return", "short", "static", "strictfp", "super",
  "switch", "synchronized", "this", "throw", "throws", "transient", "true", "try", "void", "volatile",
  "while", "var", "record", "yield"]

/-- SQL words that need quoting wherever they stand for a name. -/
def sqlReservedWords : List String := [
  "add", "all", "alter", "and", "any", "as", "asc", "between", "by", "case", "check", "column",
  "constraint", "create", "cross", "database", "delete", "desc", "distinct", "drop", "exists", "foreign",
  "from", "full", "group", "having", "in", "index", "inner", "insert", "into", "is", "join", "key",
  "left", "like", "limit", "not", "or", "outer", "primary", "references", "right", "rownum", "select",
  "set", "table", "top", "truncate", "union", "unique", "update", "values", "view", "where"]

/-- The reserved word that a name collides with, whatever its case: a keyword or a SQL word. -/
def reservedWord? (name : String) : Option String :=
  let word := Text.lower (Text.trim name)
  if languageKeywords.contains word || sqlReservedWords.contains word then some word else none

/-- The SQL word that a name collides with, whatever its case. -/
def sqlReservedWord? (name : String) : Option String :=
  let word := Text.lower (Text.trim name)
  if sqlReservedWords.contains word then some word else none

end DomainModel.Naming
