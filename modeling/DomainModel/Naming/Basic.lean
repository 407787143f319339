import DomainModel.Naming.Reserved

/-! Which texts are names. Identifiers, type names and enum constants belong to the object language;
a group id and an artifact id are the package coordinates of a project. All of them are ASCII. -/

namespace DomainModel.Naming

/-- A character that may begin an identifier. -/
def isIdentifierStart (c : Char) : Bool := c.isAlpha || c == '_' || c == '$'

/-- A character that may continue an identifier. -/
def isIdentifierPart (c : Char) : Bool := c.isAlphanum || c == '_' || c == '$'

/-- The letter shape of an identifier, keywords included. -/
def hasIdentifierShape : List Char → Bool
  | [] => false
  | c :: rest => isIdentifierStart c && rest.all isIdentifierPart

/-- An identifier has the right letters and is no keyword. Keywords are told apart by case: `Class`
is fine. -/
def isIdentifier (name : String) : Bool :=
  hasIdentifierShape name.toList && !languageKeywords.contains name

/-- A type name is an identifier that begins with a capital letter. -/
def isTypeName (name : String) : Bool :=
  isIdentifier name && name.toList.head?.any Char.isUpper

/-- An enum constant consists of capital letters, digits and underscores. -/
def isEnumConstant (name : String) : Bool :=
  !name.isEmpty && name.toList.all fun c => c.isUpper || c.isDigit || c == '_'

/-- Reads a group id; `fresh` says that a segment has to begin here. -/
def scanGroupId (fresh : Bool) : List Char → Bool
  | [] => !fresh
  | c :: rest =>
    if fresh then c.isLower && scanGroupId false rest
    else if c == '.' then scanGroupId true rest
    else (c.isLower || c.isDigit || c == '_') && scanGroupId false rest

/-- A group id is made of dotted segments, as in `com.example.shop`. -/
def isGroupId (name : String) : Bool := scanGroupId true name.toList

/-- Reads the rest of an artifact id; `fresh` says that a segment has to begin here. -/
def scanArtifactId (fresh : Bool) : List Char → Bool
  | [] => !fresh
  | c :: rest =>
    if c == '-' then !fresh && scanArtifactId true rest
    else (c.isLower || c.isDigit) && scanArtifactId false rest

/-- An artifact id is made of hyphenated segments, the first of which begins with a letter, as in
`order-service`. -/
def isArtifactId (name : String) : Bool :=
  match name.toList with
  | [] => false
  | c :: rest => c.isLower && scanArtifactId false rest

end DomainModel.Naming
