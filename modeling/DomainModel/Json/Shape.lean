import DomainModel.Json.Document

/-! Reading documents of a known shape. A shape says of any document what is its first fault, from
left to right, and what a document without a fault stands for. A record is written as an object or
as the list of its parts in order; keys that it does not know are passed over, keys that it knows
may appear once. -/

namespace DomainModel.Json

/-- Why a document is refused. -/
inductive Fault where
  /-- The text is not JSON. -/
  | malformed
  /-- The text is JSON so far, but not of the right shape. -/
  | mismatched
  deriving DecidableEq, Repr

namespace Document

/-- The fault of a value of the wrong kind. A value that cannot be told apart from junk is malformed
first; of a list or an object no more than the opening bracket has been looked at. -/
def misfit : Document → Fault
  | .broken => .malformed
  | .number none => .malformed
  | .text none => .malformed
  | _ => .mismatched

mutual

/-- Whether a document that is passed over is JSON at all. Numbers and strings without a value may
pass. -/
def isIntact : Document → Bool
  | .list items closed => itemsAreIntact items && closed
  | .object members closed => membersAreIntact members && closed
  | .broken => false
  | _ => true

/-- Whether all items may pass. -/
def itemsAreIntact : List Document → Bool
  | [] => true
  | item :: rest => isIntact item && itemsAreIntact rest

/-- Whether all members may pass. -/
def membersAreIntact : List (Document × Document) → Bool
  | [] => true
  | (.text _, doc) :: rest => isIntact doc && membersAreIntact rest
  | _ :: _ => false

end

/-- The document under a key. -/
def member? (key : String) : List (Document × Document) → Option Document
  | [] => none
  | (.text (some k), doc) :: rest => if k == key then some doc else member? key rest
  | _ :: rest => member? key rest

/-- The part of a record under a key or, if the record is a list, at a place. -/
def part? (doc : Document) (place : Nat) (key : String) : Option Document :=
  match doc with
  | .object members _ => member? key members
  | .list items _ => items[place]?
  | _ => none

end Document

/-- What a document must look like to stand for an `α`, and what it then stands for. -/
structure Shape (α : Type) where
  fault? : Document → Option Fault
  build : Document → α

/-- A part of a record: its key, whether it must be there, and what is wrong with its document. -/
structure Slot where
  key : String
  required : Bool
  fault? : Document → Option Fault

namespace Shape

/-- Reads a document. -/
def read {α : Type} (shape : Shape α) (doc : Document) : Except Fault α :=
  match shape.fault? doc with
  | some fault => .error fault
  | none => .ok (shape.build doc)

/-- Reads a text that holds one document and nothing more. -/
def readText {α : Type} (shape : Shape α) (text : String) : Except Fault α :=
  match Document.ofText text with
  | (doc, whole) => do
    let value ← shape.read doc
    if whole then .ok value else .error .malformed

/-- Reads a value. -/
def ofValue? {α : Type} (shape : Shape α) (value : Value) : Option α :=
  (shape.read (.ofValue value)).toOption

/-- A string. -/
def text : Shape String where
  fault?
    | .text (some _) => none
    | doc => some doc.misfit
  build
    | .text (some value) => value
    | _ => ""

/-- A truth value. -/
def flag : Shape Bool where
  fault?
    | .bool _ => none
    | doc => some doc.misfit
  build
    | .bool value => value
    | _ => false

/-- A whole number of 32 bits, written without a fraction. -/
def word : Shape UInt32 where
  fault?
    | .number (some (.integer n)) => if 0 ≤ n ∧ n < 0x100000000 then none else some .mismatched
    | doc => some doc.misfit
  build
    | .number (some (.integer n)) => UInt32.ofNat n.toNat
    | _ => 0

/-- Something, or `null`. -/
def optional {α : Type} (shape : Shape α) : Shape (Option α) where
  fault?
    | .null => none
    | doc => shape.fault? doc
  build
    | .null => none
    | doc => some (shape.build doc)

/-- What a shape stands for, transformed. -/
def map {α β : Type} (f : α → β) (shape : Shape α) : Shape β := ⟨shape.fault?, f ∘ shape.build⟩

/-- A list. -/
def listOf {α : Type} (shape : Shape α) : Shape (List α) where
  fault?
    | .list items closed => (items.findSome? shape.fault?).or (if closed then none else some .malformed)
    | doc => some doc.misfit
  build
    | .list items _ => items.map shape.build
    | _ => []

/-- The fault of a name without a value among `names`. It may also be the only key of an object with
`null` under it. -/
def nameFault? (names : List String) : Document → Option Fault
  | .text none => some .malformed
  | .text (some name) => if names.contains name then none else some .mismatched
  | .object [] _ => some .malformed
  | .object ((.text (some name), doc) :: rest) closed =>
    if !names.contains name then some .mismatched
    else match doc with
      | .null => if rest.isEmpty && closed then none else some .malformed
      | _ => some doc.misfit
  | .object ((key, _) :: _) _ => some key.misfit
  | _ => some .malformed

/-- The name that a document spells. -/
def spelledName : Document → String
  | .text (some name) => name
  | .object ((.text (some name), _) :: _) _ => name
  | _ => ""

/-- One of several names, each standing for a value; `fallback` is for a list without names. -/
def oneOf {α : Type} (names : List (String × α)) (fallback : α) : Shape α where
  fault? := nameFault? (names.map (·.1))
  build doc := (names.lookup (spelledName doc)).getD fallback

/-- The first fault among the members of an object, and after them a key that is missing. -/
def membersFault? (slots : List Slot) (seen : List String) (closed : Bool) :
    List (Document × Document) → Option Fault
  | [] =>
    if !closed then some .malformed
    else if slots.all (fun slot => !slot.required || seen.contains slot.key) then none
    else some .mismatched
  | (.text (some key), doc) :: rest =>
    match slots.find? (·.key == key) with
    | some slot =>
      if seen.contains key then some .mismatched
      else (slot.fault? doc).or (membersFault? slots (key :: seen) closed rest)
    | none => if doc.isIntact then membersFault? slots seen closed rest else some .malformed
  | _ :: _ => some .malformed

/-- The first fault among the parts of a record that is written as a list. Parts that need not be
there may be left off at the end. -/
def partsFault? (closed : Bool) : List Slot → List Document → Option Fault
  | [], items => if items.isEmpty && closed then none else some .malformed
  | slot :: slots, [] =>
    if !closed then some .malformed
    else if slot.required then some .mismatched else partsFault? closed slots []
  | slot :: slots, item :: items => (slot.fault? item).or (partsFault? closed slots items)

/-- A record with these slots. -/
def record {α : Type} (slots : List Slot) (build : Document → α) : Shape α where
  fault?
    | .object members closed => membersFault? slots [] closed members
    | .list items closed => partsFault? closed slots items
    | doc => some doc.misfit
  build := build

/-- A slot that must be filled. -/
def required {α : Type} (shape : Shape α) (key : String) : Slot := ⟨key, true, shape.fault?⟩

/-- A slot that may be left empty. -/
def omittable {α : Type} (shape : Shape α) (key : String) : Slot := ⟨key, false, shape.fault?⟩

/-- What a slot of a record holds, or the default. -/
def part {α : Type} (shape : Shape α) (default : α) (doc : Document) (place : Nat) (key : String) :
    α :=
  match doc.part? place key with
  | some inner => shape.build inner
  | none => default

end Shape

end DomainModel.Json
