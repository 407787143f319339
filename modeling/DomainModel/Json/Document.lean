import DomainModel.Json.Token
import DomainModel.Json.Value

/-! A JSON text as it was written: repeated keys are kept, numbers and strings without a value are
kept, and where the text stops being JSON the tree stops too, with everything before that point in
place. One reading of the grammar thus serves both the generic value and the readers of particular
shapes, which report the first fault from left to right, be it a wrong shape or the end of the JSON.
-/

namespace DomainModel.Json

/-- A value as it was written. A list or an object that was not `closed` ends in a fault. -/
inductive Document where
  | null
  | bool (value : Bool)
  | number (value : Option Number)
  | text (value : Option String)
  | list (items : List Document) (closed : Bool)
  /-- A key that is no string is kept; it ends the object. -/
  | object (members : List (Document × Document)) (closed : Bool)
  /-- The text does not go on with a value. -/
  | broken
  deriving Repr, Inhabited

namespace Document

/-- An open list or object: what it holds so far, the latest first, and for an object in front of a
value its key. -/
inductive Frame where
  | list (items : List Document)
  | object (members : List (Document × Document))
  | pair (members : List (Document × Document)) (key : Document)

/-- What may come next. -/
inductive Expectation where
  /-- A value. -/
  | value
  /-- The first item of a list, or its end. -/
  | item
  /-- The first key of an object, or its end. -/
  | firstKey
  /-- A key. -/
  | key
  /-- The colon after a key. -/
  | colon
  /-- A comma or the end, after a value. -/
  | next

/-- Places a document that was cut short into the open frames around it. -/
def abandon (inner : Document) : List Frame → Document
  | [] => inner
  | .list items :: outer => abandon (.list (inner :: items).reverse false) outer
  | .object members :: outer => abandon (.object members.reverse false) outer
  | .pair members key :: outer => abandon (.object ((key, inner) :: members).reverse false) outer

/-- The document when the text stops making sense. -/
def cut : List Frame → Document
  | [] => .broken
  | .list items :: outer => abandon (.list items.reverse false) outer
  | .object members :: outer => abandon (.object members.reverse false) outer
  | .pair members key :: outer => abandon (.object ((key, .broken) :: members).reverse false) outer

/-- Adds a finished document to the innermost frame. -/
def deliver (doc : Document) : List Frame → List Frame
  | .list items :: outer => .list (doc :: items) :: outer
  | .pair members key :: outer => .object ((key, doc) :: members) :: outer
  | frames => frames

/-- The document that a token is by itself or begins, when a value may stand here. -/
def ofToken? : Token → Option Document
  | .null => some .null
  | .bool value => some (.bool value)
  | .number value => some (.number value)
  | .text value => some (.text value)
  | _ => none

/-- How far a reading has come. -/
inductive Progress where
  | reading (expect : Expectation) (frames : List Frame)
  | finished (doc : Document)
  /-- A fault has been met; nothing after it counts. -/
  | stopped (doc : Document)

/-- Goes on after a finished value: with the frame around it, if there is one. -/
def complete (doc : Document) : List Frame → Progress
  | [] => .finished doc
  | frames => .reading .next (deliver doc frames)

/-- A token where a value must stand. -/
def stepValue (frames : List Frame) : Token → Progress
  | .listOpen => .reading .item (.list [] :: frames)
  | .objectOpen => .reading .firstKey (.object [] :: frames)
  | token =>
    match ofToken? token with
    | some doc => complete doc frames
    | none => .stopped (cut frames)

/-- A token where a key must stand. -/
def stepKey (frames : List Frame) (token : Token) : Progress :=
  match frames, token with
  | .object members :: outer, .text value => .reading .colon (.pair members (.text value) :: outer)
  | .object members :: outer, .listOpen => .stopped (cut (.pair members (.list [] false) :: outer))
  | .object members :: outer, .objectOpen => .stopped (cut (.pair members (.object [] false) :: outer))
  | .object members :: outer, token =>
    match ofToken? token with
    | some key => .stopped (cut (.pair members key :: outer))
    | none => .stopped (cut frames)
  | _, _ => .stopped (cut frames)

/-- A token after a value inside a frame. -/
def stepNext (frames : List Frame) (token : Token) : Progress :=
  match frames, token with
  | .list items :: outer, .listClose => complete (.list items.reverse true) outer
  | .list _ :: _, .comma => .reading .value frames
  | .object members :: outer, .objectClose => complete (.object members.reverse true) outer
  | .object _ :: _, .comma => .reading .key frames
  | _, _ => .stopped (cut frames)

/-- Takes one token in. -/
def step : Progress → Token → Progress
  | .stopped doc, _ => .stopped doc
  | .finished doc, _ => .stopped doc
  | .reading .value frames, token => stepValue frames token
  | .reading .item frames, .listClose => stepNext frames .listClose
  | .reading .item frames, token => stepValue frames token
  | .reading .firstKey frames, .objectClose => stepNext frames .objectClose
  | .reading .firstKey frames, token => stepKey frames token
  | .reading .key frames, token => stepKey frames token
  | .reading .colon frames, .colon => .reading .value frames
  | .reading .colon frames, _ => .stopped (cut frames)
  | .reading .next frames, token => stepNext frames token

/-- The document read so far, and whether the text holds it and nothing more. -/
def Progress.result : Progress → Document × Bool
  | .reading _ frames => (cut frames, false)
  | .finished doc => (doc, true)
  | .stopped doc => (doc, false)

/-- Reads the tokens of a text: the document, and whether the text holds it and nothing more. -/
def ofTokens (tokens : List Token) : Document × Bool :=
  (tokens.foldl step (.reading .value [])).result

/-- Reads a text: the document, and whether the text holds it and nothing more. -/
def ofText (text : String) : Document × Bool := ofTokens (tokens text.toList)

mutual

/-- The value that a document stands for: a key given twice keeps its first place and its last
value. None where the document ends in a fault, a number is too large or a string is no text. -/
def toValue? : Document → Option Value
  | .null => some .null
  | .bool value => some (.bool value)
  | .number value => value.map .number
  | .text value => value.map .text
  | .list items closed => if closed then (toValues? items).map .list else none
  | .object members closed => if closed then (toMembers? [] members).map .object else none
  | .broken => none

/-- The values of the items of a list. -/
def toValues? : List Document → Option (List Value)
  | [] => some []
  | item :: rest =>
    match toValue? item, toValues? rest with
    | some value, some values => some (value :: values)
    | _, _ => none

/-- The members of an object, added to those before them. -/
def toMembers? (before : List (String × Value)) : List (Document × Document) → Option (List (String × Value))
  | [] => some before
  | (.text (some key), doc) :: rest =>
    match toValue? doc with
    | some value => toMembers? (setMember before key value) rest
    | none => none
  | _ :: _ => none

end

mutual

/-- How deep lists and objects are nested. -/
def depth : Document → Nat
  | .list items _ => depthOfItems items + 1
  | .object members _ => depthOfMembers members + 1
  | _ => 0

/-- The depth of the deepest item. -/
def depthOfItems : List Document → Nat
  | [] => 0
  | item :: rest => max (depth item) (depthOfItems rest)

/-- The depth of the deepest member. -/
def depthOfMembers : List (Document × Document) → Nat
  | [] => 0
  | (_, doc) :: rest => max (depth doc) (depthOfMembers rest)

end

mutual

/-- A value as it is written when every key appears once. -/
def ofValue : Value → Document
  | .null => .null
  | .bool value => .bool value
  | .number value => .number (some value)
  | .text value => .text (some value)
  | .list items => .list (ofValues items) true
  | .object members => .object (ofMembers members) true

/-- The items of a list as they are written. -/
def ofValues : List Value → List Document
  | [] => []
  | value :: rest => ofValue value :: ofValues rest

/-- The members of an object as they are written. -/
def ofMembers : List (String × Value) → List (Document × Document)
  | [] => []
  | (key, value) :: rest => (.text (some key), ofValue value) :: ofMembers rest

end

end Document

end DomainModel.Json
