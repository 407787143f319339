import DomainModel.Json.Number

/-! The tokens of a JSON text. A lexeme is the longest valid one that begins where the last one
ended; where none begins, the reading stops with a `junk` token. A number that is too large and a
string that escapes half a surrogate pair are tokens all the same, without a value: parts of a
document that nobody reads need only be well formed. -/

namespace DomainModel.Json

/-- A token. A number that is too large has no value, nor has a string with half a surrogate pair.
-/
inductive Token where
  | listOpen
  | listClose
  | objectOpen
  | objectClose
  | comma
  | colon
  | null
  | bool (value : Bool)
  | number (value : Option Number)
  | text (value : Option String)
  | junk
  deriving DecidableEq, Repr

/-- The four characters that may stand between tokens. -/
def isGap (c : Char) : Bool := c == ' ' || c == '\t' || c == '\n' || c == '\r'

/-- Part of a string: a character, or a 16-bit unit given by its code. -/
inductive TextPiece where
  | char (c : Char)
  | unit (code : Nat)
  deriving DecidableEq, Repr

/-- The value of four hexadecimal digits. -/
def hexUnit? (a b c d : Char) : Option Nat := do
  let a ← Text.hexDigit? a
  let b ← Text.hexDigit? b
  let c ← Text.hexDigit? c
  let d ← Text.hexDigit? d
  return ((a * 16 + b) * 16 + c) * 16 + d

/-- The character that an escape of one letter stands for. -/
def escaped? : Char → Option Char
  | '"' => some '"'
  | '\\' => some '\\'
  | '/' => some '/'
  | 'b' => some '\x08'
  | 'f' => some '\x0c'
  | 'n' => some '\n'
  | 'r' => some '\r'
  | 't' => some '\t'
  | _ => none

/-- Reads a string up to its closing quote; gives its pieces and what follows. -/
def scanText : List Char → Option (List TextPiece × List Char)
  | [] => none
  | '"' :: rest => some ([], rest)
  | '\\' :: 'u' :: a :: b :: c :: d :: rest =>
    match hexUnit? a b c d, scanText rest with
    | some code, some (pieces, after) => some (.unit code :: pieces, after)
    | _, _ => none
  | '\\' :: e :: rest =>
    match escaped? e, scanText rest with
    | some c, some (pieces, after) => some (.char c :: pieces, after)
    | _, _ => none
  | c :: rest =>
    if c.toNat < 0x20 then none
    else match scanText rest with
      | some (pieces, after) => some (.char c :: pieces, after)
      | none => none

/-- The first half of a surrogate pair. -/
def isHighSurrogate (code : Nat) : Bool := 0xD800 ≤ code && code < 0xDC00

/-- The second half of a surrogate pair. -/
def isLowSurrogate (code : Nat) : Bool := 0xDC00 ≤ code && code < 0xE000

/-- The characters of a string; none when a surrogate stands alone. -/
def assemble : List TextPiece → Option (List Char)
  | [] => some []
  | .char c :: rest => (assemble rest).map (c :: ·)
  | .unit high :: .unit low :: rest =>
    if isHighSurrogate high then
      if isLowSurrogate low then
        (assemble rest).map (Char.ofNat (0x10000 + (high - 0xD800) * 0x400 + (low - 0xDC00)) :: ·)
      else none
    else if isLowSurrogate high then none
    else (assemble (.unit low :: rest)).map (Char.ofNat high :: ·)
  | .unit code :: rest =>
    if isHighSurrogate code || isLowSurrogate code then none else (assemble rest).map (Char.ofNat code :: ·)

/-- Splits off the leading decimal digits. -/
def spanDigits (s : List Char) : List Char × List Char :=
  (s.takeWhile Char.isDigit, s.dropWhile Char.isDigit)

/-- The digits before the point: no zero leads another digit. -/
def scanWhole? (s : List Char) : Option (List Char × List Char) :=
  match spanDigits s with
  | ([], _) => none
  | ('0' :: _ :: _, _) => none
  | whole => some whole

/-- The digits after a point; if there is a point there is a digit. -/
def scanFraction? : List Char → Option (Option (List Char) × List Char)
  | '.' :: rest =>
    match spanDigits rest with
    | ([], _) => none
    | (digits, after) => some (some digits, after)
  | s => some (none, s)

/-- The digits of an exponent; there is at least one. -/
def exponentDigits? (negative : Bool) (s : List Char) :
    Option (Option (Bool × List Char) × List Char) :=
  match spanDigits s with
  | ([], _) => none
  | (digits, after) => some (some (negative, digits), after)

/-- An exponent with its optional sign. -/
def scanExponent? : List Char → Option (Option (Bool × List Char) × List Char)
  | c :: rest =>
    if c == 'e' || c == 'E' then
      match rest with
      | '+' :: rest => exponentDigits? false rest
      | '-' :: rest => exponentDigits? true rest
      | _ => exponentDigits? false rest
    else some (none, c :: rest)
  | [] => some (none, [])

/-- A number after its sign. -/
def scanUnsigned? (negative : Bool) (s : List Char) : Option (Literal × List Char) := do
  let (whole, s) ← scanWhole? s
  let (fraction, s) ← scanFraction? s
  let (exponent, s) ← scanExponent? s
  return (⟨negative, whole, fraction, exponent⟩, s)

/-- A number at the front of a text. -/
def scanNumber? : List Char → Option (Literal × List Char)
  | '-' :: rest => scanUnsigned? true rest
  | s => scanUnsigned? false s

/-- The first token of a text that does not begin with a gap, and what follows it. -/
def nextToken : List Char → Token × List Char
  | '[' :: rest => (.listOpen, rest)
  | ']' :: rest => (.listClose, rest)
  | '{' :: rest => (.objectOpen, rest)
  | '}' :: rest => (.objectClose, rest)
  | ',' :: rest => (.comma, rest)
  | ':' :: rest => (.colon, rest)
  | '"' :: rest =>
    match scanText rest with
    | some (pieces, after) => (.text ((assemble pieces).map String.ofList), after)
    | none => (.junk, [])
  | 'n' :: 'u' :: 'l' :: 'l' :: rest => (.null, rest)
  | 't' :: 'r' :: 'u' :: 'e' :: rest => (.bool true, rest)
  | 'f' :: 'a' :: 'l' :: 's' :: 'e' :: rest => (.bool false, rest)
  | s =>
    match scanNumber? s with
    | some (literal, after) => (.number (Number.ofLiteral? literal), after)
    | none => (.junk, [])

/-- The tokens of a text, with as many steps allowed. -/
def tokensWithin : Nat → List Char → List Token
  | 0, _ => []
  | steps + 1, s =>
    match s.dropWhile isGap with
    | [] => []
    | c :: rest =>
      let (token, after) := nextToken (c :: rest)
      token :: tokensWithin steps after

/-- The tokens of a text. Each takes a character at least, so there are no more than characters. -/
def tokens (s : List Char) : List Token := tokensWithin s.length s

end DomainModel.Json
