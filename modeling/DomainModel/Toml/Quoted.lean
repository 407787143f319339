import DomainModel.Text.Digit

/-! TOML strings. A basic string stands between quotes and knows escapes, a literal string stands
between apostrophes and knows none. Between tripled marks a string may have several lines: a line
end right after the opening marks is dropped, every other one is read as a line feed, and one or two
marks may stand right before the closing ones. -/

namespace DomainModel.Toml

/-- The characters that may stand in a string or a comment as they are, line ends apart. -/
def isPlainChar (c : Char) : Bool := c == '\t' || (0x20 ≤ c.toNat && c.toNat != 0x7F)

/-- The character that an escape of one letter stands for. -/
def escaped? : Char → Option Char
  | '"' => some '"'
  | '\\' => some '\\'
  | 'b' => some '\x08'
  | 'f' => some '\x0c'
  | 'n' => some '\n'
  | 'r' => some '\r'
  | 't' => some '\t'
  | _ => none

/-- The character that a code of hexadecimal digits stands for; surrogates stand for none. -/
def charOfCode? (digits : List Char) : Option Char := do
  let code ← Text.valueInBase? 16 digits
  if code.isValidChar then some (Char.ofNat code) else none

/-- Puts a character in front of what has been read. -/
def prepend (c : Char) (read : Option (List Char × List Char)) : Option (List Char × List Char) :=
  read.map fun (text, after) => (c :: text, after)

/-- Puts an escaped character in front of what has been read. -/
def prepend? (c : Option Char) (read : Option (List Char × List Char)) :
    Option (List Char × List Char) :=
  c.bind fun c => prepend c read

/-- Reads a basic string up to its closing quote; gives the text and what follows. -/
def basic : List Char → Option (List Char × List Char)
  | [] => none
  | '"' :: rest => some ([], rest)
  | '\\' :: 'u' :: a :: b :: c :: d :: rest => prepend? (charOfCode? [a, b, c, d]) (basic rest)
  | '\\' :: 'U' :: a :: b :: c :: d :: e :: f :: g :: h :: rest =>
    prepend? (charOfCode? [a, b, c, d, e, f, g, h]) (basic rest)
  | '\\' :: letter :: rest => prepend? (escaped? letter) (basic rest)
  | c :: rest => if isPlainChar c then prepend c (basic rest) else none

/-- Reads a literal string up to its closing apostrophe; gives the text and what follows. -/
def literal : List Char → Option (List Char × List Char)
  | [] => none
  | '\x27' :: rest => some ([], rest)
  | c :: rest => if isPlainChar c then prepend c (literal rest) else none

/-- Where a reading of several lines stands. -/
inductive LineState where
  /-- Among the text. -/
  | text
  /-- After a backslash, with nothing but blanks up to the end of the line. -/
  | lineEnd
  /-- After that line end: further blanks and line ends are passed over. -/
  | joining
  deriving DecidableEq, Repr

/-- A space or a tab. -/
def isSpace (c : Char) : Bool := c == ' ' || c == '\t'

/-- Reads a basic string of several lines. A backslash at the end of a line joins the next line that
is not blank. -/
def basicLines : LineState → List Char → Option (List Char × List Char)
  | _, [] => none
  | .lineEnd, '\n' :: rest => basicLines .joining rest
  | .lineEnd, '\r' :: '\n' :: rest => basicLines .joining rest
  | .lineEnd, c :: rest => if isSpace c then basicLines .lineEnd rest else none
  | .joining, '\n' :: rest => basicLines .joining rest
  | .joining, '\r' :: '\n' :: rest => basicLines .joining rest
  | .joining, ' ' :: rest => basicLines .joining rest
  | .joining, '\t' :: rest => basicLines .joining rest
  | _, '"' :: '"' :: '"' :: '"' :: '"' :: rest => some (['"', '"'], rest)
  | _, '"' :: '"' :: '"' :: '"' :: rest => some (['"'], rest)
  | _, '"' :: '"' :: '"' :: rest => some ([], rest)
  | _, '\\' :: 'u' :: a :: b :: c :: d :: rest => prepend? (charOfCode? [a, b, c, d]) (basicLines .text rest)
  | _, '\\' :: 'U' :: a :: b :: c :: d :: e :: f :: g :: h :: rest =>
    prepend? (charOfCode? [a, b, c, d, e, f, g, h]) (basicLines .text rest)
  | _, '\\' :: '\n' :: rest => basicLines .joining rest
  | _, '\\' :: '\r' :: '\n' :: rest => basicLines .joining rest
  | _, '\\' :: c :: rest =>
    if isSpace c then basicLines .lineEnd rest else prepend? (escaped? c) (basicLines .text rest)
  | _, '\n' :: rest => prepend '\n' (basicLines .text rest)
  | _, '\r' :: '\n' :: rest => prepend '\n' (basicLines .text rest)
  | _, c :: rest => if isPlainChar c then prepend c (basicLines .text rest) else none

/-- Reads a literal string of several lines. -/
def literalLines : List Char → Option (List Char × List Char)
  | [] => none
  | '\x27' :: '\x27' :: '\x27' :: '\x27' :: '\x27' :: rest => some (['\x27', '\x27'], rest)
  | '\x27' :: '\x27' :: '\x27' :: '\x27' :: rest => some (['\x27'], rest)
  | '\x27' :: '\x27' :: '\x27' :: rest => some ([], rest)
  | '\n' :: rest => prepend '\n' (literalLines rest)
  | '\r' :: '\n' :: rest => prepend '\n' (literalLines rest)
  | c :: rest => if isPlainChar c then prepend c (literalLines rest) else none

/-- Drops the line end right after the opening marks. -/
def dropLineEnd : List Char → List Char
  | '\n' :: rest => rest
  | '\r' :: '\n' :: rest => rest
  | s => s

/-- Reads a string of either kind that has one line, if one begins here. -/
def oneLine? : List Char → Option (List Char × List Char)
  | '"' :: rest => basic rest
  | '\x27' :: rest => literal rest
  | _ => none

/-- Reads a string of any kind, if one begins here. -/
def quoted? : List Char → Option (List Char × List Char)
  | '"' :: '"' :: '"' :: rest => basicLines .text (dropLineEnd rest)
  | '\x27' :: '\x27' :: '\x27' :: rest => literalLines (dropLineEnd rest)
  | s => oneLine? s

end DomainModel.Toml
