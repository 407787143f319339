import DomainModel.Text.Blank
import DomainModel.Text.Word

/-! Recognising keywords. Their letters match in either case, and as case is folded the long s
counts as an s and the Kelvin sign as a k. The words of a phrase have blanks between them. -/

namespace DomainModel.Sql

/-- Whether `c` is the small letter `letter` up to case. -/
def isLetter (letter c : Char) : Bool :=
  c.toLower == letter || (letter == 's' && c == 'ſ') || (letter == 'k' && c.toNat == 0x212A)

/-- What follows a keyword at the front of a text. -/
def keyword? : List Char → List Char → Option (List Char)
  | [], s => some s
  | _ :: _, [] => none
  | letter :: word, c :: s => if isLetter letter c then keyword? word s else none

/-- What follows one or more blanks. -/
def gap? : List Char → Option (List Char)
  | [] => none
  | c :: s => if Text.isBlank c then some (Text.skipBlanks s) else none

/-- What follows a phrase at the front of a text. -/
def phrase? : List String → List Char → Option (List Char)
  | [], s => some s
  | [word], s => keyword? word.toList s
  | word :: words, s => (keyword? word.toList s).bind fun s => (gap? s).bind (phrase? words)

/-- Whether a text begins with a phrase, the last word of which ends there. -/
def beginsWith (words : List String) (s : List Char) : Bool := (phrase? words s).any Text.atWordEnd

/-- Tries a reader at the beginning of every word; `inWord` says that a word character comes before
the text. -/
def search {α : Type} (reader : List Char → Option α) (inWord : Bool) : List Char → Option α
  | [] => none
  | c :: s =>
    (if inWord then none else reader (c :: s)).or (search reader (Text.isWordChar c) s)

/-- Whether a phrase occurs in a text as whole words. -/
def mentions (words : List String) (s : List Char) : Bool :=
  (search (fun s => (phrase? words s).filter Text.atWordEnd) false s).isSome

/-- What follows an opening parenthesis, which may have blanks in front. -/
def parenthesis? (s : List Char) : Option (List Char) :=
  match Text.skipBlanks s with
  | '(' :: rest => some rest
  | _ => none

end DomainModel.Sql
