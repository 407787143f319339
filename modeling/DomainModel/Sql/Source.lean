import DomainModel.Text.Blank
import DomainModel.Text.Split

/-! From a script to its statements. Comments go first, those in blocks before those at line ends;
then the text is cut at semicolons. String literals are not recognised, so comment marks and
semicolons inside them count. -/

namespace DomainModel.Sql

mutual

/-- Puts a space for every block comment that is closed. -/
def stripBlocks : List Char → List Char
  | [] => []
  | '/' :: '*' :: rest =>
    match afterBlock rest with
    | some stripped => ' ' :: stripped
    | none => '/' :: '*' :: rest
  | c :: rest => c :: stripBlocks rest

/-- What follows the end of a block comment, itself without block comments; none if the comment does
not end. -/
def afterBlock : List Char → Option (List Char)
  | [] => none
  | '*' :: '/' :: rest => some (stripBlocks rest)
  | _ :: rest => afterBlock rest

end

/-- Whether a character ends a line comment. -/
def isLineBreak (c : Char) : Bool := c == '\r' || c == '\n'

mutual

/-- Drops what stands between two dashes and the end of the line. -/
def stripLines : List Char → List Char
  | [] => []
  | '-' :: '-' :: rest => afterLine rest
  | c :: rest => c :: stripLines rest

/-- What follows a line comment, from the line break on, itself without line comments. -/
def afterLine : List Char → List Char
  | [] => []
  | c :: rest => if isLineBreak c then c :: stripLines rest else afterLine rest

end

/-- The statements of a script, without comments, outer blanks and empty statements. -/
def statements (script : List Char) : List (List Char) :=
  ((Text.splitAt ';' (stripLines (stripBlocks script))).map Text.trimChars).filter (!·.isEmpty)

/-- The greatest number of characters shown of a statement. -/
def maxSnippet : Nat := 60

/-- The first line of a statement, cut off where it gets too long. -/
def snippet (statement : List Char) : List Char :=
  let line := Text.trimChars (statement.takeWhile (· != '\n'))
  if maxSnippet < line.length then line.take maxSnippet ++ ['.', '.', '.'] else line

end DomainModel.Sql
